import CapabilityGateway.Proofs.Guest.Projection

/-!
# Taking a console line apart

A console line is the texts of its arguments with a space between each two. The text of anything but
a string is compact: it has no blank outside of its quoted strings and no control character at all.
So the spaces that stand outside of quoted strings are just those between the arguments, and a line
without string arguments can be cut at them. Strings stand in a line as they are, and the control
characters of a line are theirs.

* `Json.cut`: a text cut at the spaces outside of its strings.
* `Value.compact_stringifyChars`: the text of a value on its own is compact.
* `Value.line_framed`: the control characters of a line, and its parts.
-/

namespace CapabilityGateway

/-- The characters below U+0020, in order. -/
def Text.controls (cs : List Char) : List Char := cs.filter fun c => c.toNat < 0x20

namespace Json

/-! ## Cutting at spaces -/

/-- A text cut at the spaces that stand outside of strings, where `p` says where it begins. -/
def cut : Place → List Char → List (List Char)
  | _, [] => [[]]
  | p, c :: cs =>
    if p = .outside ∧ c = ' ' then [] :: cut .outside cs
    else (cut (p.next c) cs).modifyHead (c :: ·)

/-- Only the place decides whether a character stands outside. -/
theorem unquoted_cons (p : Place) (c : Char) (cs : List Char) :
    unquoted p (c :: cs) =
      (if p = .outside then [c] else []) ++ unquoted (p.next c) cs := by
  cases p <;> rfl

/-- A text is left whole up to the first space outside of its strings. -/
theorem cut_append {p : Place} {t : List Char} (h : ∀ c ∈ unquoted p t, c ≠ ' ')
    (rest : List Char) :
    cut p (t ++ rest) = (cut (p.after t) rest).modifyHead (t ++ ·) := by
  induction t generalizing p with
  | nil =>
    cases hrest : cut p rest <;> simp [Place.after, hrest]
  | cons c t ih =>
    rw [unquoted_cons] at h
    obtain ⟨hhead, htail⟩ := List.forall_mem_append.mp h
    have hc : ¬ (p = .outside ∧ c = ' ') := by
      rintro ⟨rfl, rfl⟩
      simp at hhead
    have hafter : p.after (c :: t) = (p.next c).after t := rfl
    rw [List.cons_append, cut, if_neg hc, ih htail, hafter, List.modifyHead_modifyHead]
    rfl

theorem cut_of_compact {t : List Char} (h : Compact t) (rest : List Char) :
    cut .outside (t ++ rest) = (cut .outside rest).modifyHead (t ++ ·) := by
  have hspace : ∀ c ∈ unquoted .outside t, c ≠ ' ' := by
    rintro _ hc rfl
    cases h.noBlank ' ' hc
  rw [cut_append hspace, h.closed]

/-- Compact texts with spaces between them are found again. -/
theorem cut_separated {ts : List (List Char)} (hne : ts ≠ []) (h : ∀ t ∈ ts, Compact t) :
    cut .outside (separated ' ' ts) = ts := by
  induction ts with
  | nil => exact absurd rfl hne
  | cons t ts ih =>
    obtain ⟨ht, hts⟩ := List.forall_mem_cons.mp h
    cases ts with
    | nil =>
      have hwhole := cut_of_compact ht []
      simpa [separated, cut] using hwhole
    | cons u ts =>
      have hspace : ∀ cs, cut .outside (' ' :: cs) = [] :: cut .outside cs := fun _ => rfl
      rw [separated, cut_of_compact ht, hspace, ih (by simp) hts]
      simp

/-- A separator that is left out leaves what the texts leave. -/
theorem filter_separated {p : Char → Bool} {separator : Char} (h : p separator = false)
    (ts : List (List Char)) :
    (separated separator ts).filter p = ts.flatMap fun t => t.filter p := by
  induction ts with
  | nil => rfl
  | cons t ts ih =>
    cases ts with
    | nil => simp [separated]
    | cons u ts =>
      rw [separated, List.filter_append, List.filter_cons_of_neg (by simp [h]), ih]
      rfl

theorem Compact.controls_eq {t : List Char} (h : Compact t) : Text.controls t = [] := by
  rw [Text.controls, List.filter_eq_nil_iff]
  intro c hc
  have := h.noControl c hc
  simp only [decide_eq_true_eq]
  omega

end Json

namespace Value

open Json (Compact compact_word)

/-! ## Texts of values -/

theorem compact_nonFiniteName (n : Binary64) : Compact n.nonFiniteName := by
  unfold Binary64.nonFiniteName
  split
  · exact compact_word (by decide)
  · split
    · exact compact_word (by decide)
    · exact compact_word (by decide)

theorem stringifyChars_number (n : Binary64) :
    (number n).stringifyChars = if n.isFinite then n.jsonText else n.nonFiniteName := rfl

/-- The text of a value on its own is compact, also where the value has no JSON form. -/
theorem compact_stringifyChars (v : Value) : Compact v.stringifyChars := by
  cases v with
  | undefined => exact compact_word (by decide)
  | function f =>
    have hword : Compact "[Function]".toList := compact_word (by decide)
    exact hword
  | number n =>
    by_cases hfinite : n.isFinite = true
    · rw [stringifyChars_eq rfl (by rintro _ ⟨⟩; exact hfinite)]
      exact Json.Datum.compact_text _
    · rw [stringifyChars_number, if_neg hfinite]
      exact compact_nonFiniteName n
  | _ =>
    rw [stringifyChars_eq rfl (by rintro _ ⟨⟩)]
    exact Json.Datum.compact_text _

/-! ## Lines -/

theorem lineChars_of_text?_eq_none {v : Value} (h : v.text? = none) :
    v.lineChars = v.stringifyChars := by
  cases v with
  | string s => cases h
  | _ => rfl

theorem controls_lineChars (v : Value) :
    Text.controls v.lineChars = v.text?.toList.flatMap fun s => Text.controls s.toList := by
  cases h : v.text? with
  | none =>
    rw [lineChars_of_text?_eq_none h]
    exact v.compact_stringifyChars.controls_eq
  | some s =>
    cases v with
    | string t =>
      cases h
      simp [lineChars]
    | _ => cases h

theorem controls_line (arguments : List Value) :
    Text.controls (line arguments).toList =
      (arguments.filterMap text?).flatMap fun s => Text.controls s.toList := by
  have hspace : decide (' '.toNat < 0x20) = false := by decide
  rw [line, String.toList_ofList, Text.controls, Json.filter_separated hspace]
  induction arguments with
  | nil => rfl
  | cons v rest ih =>
    have hv := controls_lineChars v
    rw [Text.controls] at hv
    rw [List.map_cons, List.flatMap_cons, hv, ih]
    cases htext : v.text? <;> simp [htext]

/-- The control characters of a line are those of its string arguments, in order. And a line of
some arguments without a string among them, cut at the spaces outside of quoted strings, is the
texts of the arguments. -/
theorem line_framed (arguments : List Value) :
    Text.controls (line arguments).toList =
        (arguments.filterMap text?).flatMap (fun s => Text.controls s.toList) ∧
      (arguments ≠ [] → (∀ v ∈ arguments, v.text? = none) →
        (Json.cut .outside (line arguments).toList).map String.ofList =
          arguments.map stringify) := by
  refine ⟨controls_line arguments, fun hne hstrings => ?_⟩
  have htexts : arguments.map lineChars = arguments.map stringifyChars :=
    List.map_congr_left fun v hv => lineChars_of_text?_eq_none (hstrings v hv)
  have hcompact : ∀ t ∈ arguments.map stringifyChars, Compact t := by
    intro t ht
    obtain ⟨v, -, rfl⟩ := List.mem_map.mp ht
    exact v.compact_stringifyChars
  rw [line, String.toList_ofList, htexts, Json.cut_separated (by simpa using hne) hcompact,
    List.map_map]
  rfl

/-- Spaces, quotes, backslashes and line breaks in nested strings and keys, and texts that are not
JSON. -/
theorem line_framed_quoted :
    let arguments := [Value.array 1 [.string "a \" b\\", .number .nan], .number (.infinity true),
      .objectOf 2 [("k 1\n", .undefined), ("\t \\", .string "\" ")], .undefined]
    (∀ v ∈ arguments, v.text? = none) ∧
      (Json.cut .outside (line arguments).toList).map String.ofList =
        ["[\"a \\\" b\\\\\",null]", "-Infinity", "\x7b\"\\t \\\\\":\"\\\" \"\x7d", "undefined"] ∧
      Text.controls (line (.string "x\ny\t" :: arguments)).toList = ['\n', '\t'] := by
  intro arguments
  have hstrings : ∀ v ∈ arguments, v.text? = none := by decide
  obtain ⟨-, hparts⟩ := line_framed arguments
  obtain ⟨hcontrols, -⟩ := line_framed (.string "x\ny\t" :: arguments)
  have htexts : arguments.map stringify =
      ["[\"a \\\" b\\\\\",null]", "-Infinity", "\x7b\"\\t \\\\\":\"\\\" \"\x7d", "undefined"] := by
    decide +kernel
  exact ⟨hstrings, (hparts (by simp [arguments]) hstrings).trans htexts, hcontrols.trans rfl⟩

end Value

end CapabilityGateway
