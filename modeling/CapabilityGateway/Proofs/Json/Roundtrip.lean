import CapabilityGateway.Json.Text
import CapabilityGateway.Proofs.Json.Reader

/-!
# Reading back what is written

The text of a JSON value, put together from quoted strings, arrays and objects, is read back as that
value.

* `Json.escape_cases`, `Json.readString_escape`: what escapes can be, and that they are undone.
* `Json.Datum.readValue_text`: a value is read back wherever its text stands.
* `Json.Datum.read?_text`: the whole text stands for the value.
-/

namespace CapabilityGateway

namespace Json

/-! ## Strings -/

theorem hexValue?_digitChar {n : Nat} (h : n < 16) : hexValue? n.digitChar = some n := by
  have hall : ∀ m : Fin 16, hexValue? m.val.digitChar = some m.val := by decide
  exact hall ⟨n, h⟩

/-- The escape of a control character is read back. -/
theorem readUnicode_hexPair {c : Char} (h : c.toNat < 0x20) (rest : List Char) :
    readUnicode ('0' :: '0' :: (hexPair c.toNat ++ rest)) = some (c, rest) := by
  have hhigh : hexValue? (c.toNat / 16 % 16).digitChar = some (c.toNat / 16 % 16) :=
    hexValue?_digitChar (by omega)
  have hlow : hexValue? (c.toNat % 16).digitChar = some (c.toNat % 16) :=
    hexValue?_digitChar (by omega)
  have hzero : hexValue? '0' = some 0 := rfl
  have hunit : readUnit ('0' :: '0' :: (hexPair c.toNat ++ rest)) = some (c.toNat, rest) := by
    have hvalue : c.toNat / 16 % 16 * 16 + c.toNat % 16 = c.toNat := by omega
    simp [readUnit, hexPair, hzero, hhigh, hlow, hvalue]
  have hplain : c.toNat < 0xD800 ∨ 0xDFFF < c.toNat := by omega
  simp [readUnicode, hunit, hplain]

/-- What the escape of a character can be: a backslash and a letter, a code in hexadecimal, or the
character as it is. -/
theorem escape_cases (c : Char) :
    (∃ e, escape c = ['\\', e] ∧ unescaped? e = some c ∧ 0x20 ≤ e.toNat) ∨
    (escape c = ['\\', 'u', '0', '0'] ++ hexPair c.toNat ∧ c.toNat < 0x20) ∨
    (escape c = [c] ∧ c ≠ '"' ∧ c ≠ '\\' ∧ 0x20 ≤ c.toNat) := by
  rw [escape.eq_def]
  split
  · exact .inl ⟨_, rfl, rfl, by decide⟩
  · exact .inl ⟨_, rfl, rfl, by decide⟩
  · exact .inl ⟨_, rfl, rfl, by decide⟩
  · exact .inl ⟨_, rfl, rfl, by decide⟩
  · exact .inl ⟨_, rfl, rfl, by decide⟩
  · exact .inl ⟨_, rfl, rfl, by decide⟩
  · exact .inl ⟨_, rfl, rfl, by decide⟩
  next hquote hbackslash _ _ _ _ _ =>
    split
    next hcontrol => exact .inr (.inl ⟨rfl, hcontrol⟩)
    next hcontrol => exact .inr (.inr ⟨rfl, hquote, hbackslash, Nat.le_of_not_lt hcontrol⟩)

theorem readChar_escape (c : Char) (rest : List Char) :
    readChar (escape c ++ rest) = some (c, rest) := by
  rcases escape_cases c with ⟨e, hescape, he, -⟩ | ⟨hescape, hcontrol⟩ |
    ⟨hescape, hquote, hbackslash, hcontrol⟩
  · have hu : e ≠ 'u' := by
      rintro rfl
      cases he
    rw [hescape]
    simp [readChar, he]
  · rw [hescape]
    exact readUnicode_hexPair hcontrol rest
  · rw [hescape]
    simp [readChar, hquote, hbackslash, hcontrol]

/-- No escape begins with the closing quote. -/
theorem escape_cons (c : Char) : ∃ a as, escape c = a :: as ∧ a ≠ '"' := by
  rcases escape_cases c with ⟨e, hescape, -⟩ | ⟨hescape, -⟩ | ⟨hescape, hquote, -⟩
  · exact ⟨_, _, hescape, by decide⟩
  · exact ⟨_, _, hescape, by decide⟩
  · exact ⟨_, _, hescape, hquote⟩

theorem quote_append (s rest : List Char) :
    quote s ++ rest = '"' :: (s.flatMap escape ++ '"' :: rest) := by
  simp [quote]

theorem length_quote (s : List Char) : (quote s).length = (s.flatMap escape).length + 2 := by
  simp only [quote, List.length_cons, List.length_append, List.length_nil]

theorem readString_escape {n : Nat} (s rest : List Char) (h : (s.flatMap escape).length < n) :
    readString n (s.flatMap escape ++ '"' :: rest) = some (s, rest) := by
  induction s generalizing n with
  | nil =>
    obtain ⟨n, rfl⟩ := Nat.exists_eq_add_one_of_ne_zero (Nat.ne_of_gt h)
    rfl
  | cons c s ih =>
    obtain ⟨a, as, hescape, ha⟩ := escape_cons c
    have hlength : (s.flatMap escape).length + as.length + 1 < n := by
      simp only [List.flatMap_cons, List.length_append, hescape, List.length_cons] at h
      omega
    obtain ⟨n, rfl⟩ : ∃ m, n = m + 1 := ⟨n - 1, by omega⟩
    have hchar := readChar_escape c (s.flatMap escape ++ '"' :: rest)
    have hrest := ih (n := n) (by omega)
    rw [List.flatMap_cons, List.append_assoc, hescape, List.cons_append, readString]
    · rw [← List.cons_append, ← hescape, hchar]
      simp [hrest]
    · intro r hr
      exact ha (List.cons.inj hr).1

/-! ## Numbers -/

theorem readNumber_text (t : Numeral) {rest : List Char} (h : Stops isNumberChar rest) :
    readNumber (t.text ++ rest) = some (.number t, rest) := by
  obtain ⟨htake, hdrop⟩ := span_append (numberChars_of_isNumber t.valid) h
  have hvalid : isNumber ((t.text ++ rest).takeWhile isNumberChar) = true := by
    rw [htake]
    exact t.valid
  rw [readNumber, dif_pos hvalid, hdrop]
  simp only [htake]

/-! ## Values -/

namespace Datum

mutual

/-- The text of a value. -/
def text : Datum → List Char
  | .null => "null".toList
  | .bool b => if b then "true".toList else "false".toList
  | .number t => t.text
  | .string s => quote s.toList
  | .array ds => Json.array (texts ds)
  | .object ms => Json.object (memberTexts ms)

def texts : List Datum → List (List Char)
  | [] => []
  | d :: ds => d.text :: texts ds

def memberTexts : List (String × Datum) → List (List Char)
  | [] => []
  | (name, d) :: ms => member name.toList d.text :: memberTexts ms

end

/-- What a numeral begins with is none of the other characters. -/
theorem ne_of_begins {c a : Char} (hc : c = '-' ∨ c.isDigit = true)
    (ha : a ≠ '-' ∧ a.isDigit = false) : c ≠ a := by
  rintro rfl
  rcases hc with h | h
  · exact ha.1 h
  · rw [ha.2] at h
    cases h

theorem text_cons (d : Datum) : ∃ c cs, d.text = c :: cs ∧ isSpace c = false ∧ c ≠ ']' := by
  cases d with
  | null => exact ⟨_, _, rfl, rfl, by decide⟩
  | bool b => cases b <;> exact ⟨_, _, rfl, rfl, by decide⟩
  | number t =>
    obtain ⟨c, cs, ht, hc⟩ := head_of_isNumber t.valid
    refine ⟨c, cs, ht, ?_, ne_of_begins hc (by decide)⟩
    rw [isSpace, List.contains_eq_mem, decide_eq_false_iff_not]
    intro hspace
    have hall : ∀ a ∈ [' ', '\t', '\n', '\r'], a ≠ '-' ∧ a.isDigit = false := by simp
    exact ne_of_begins hc (hall c hspace) rfl
  | string s => exact ⟨_, _, rfl, rfl, by decide⟩
  | array ds => exact ⟨_, _, rfl, rfl, by decide⟩
  | object ms => exact ⟨_, _, rfl, rfl, by decide⟩

theorem skip_cons {c : Char} (hc : isSpace c = false) (cs : List Char) :
    skip (c :: cs) = c :: cs := by
  rw [skip, List.dropWhile_cons_of_neg (by simp [hc])]

theorem readValue_numeral (t : Numeral) {n : Nat} {rest : List Char} (hn : 0 < n)
    (hrest : Stops isNumberChar rest) : readValue n (t.text ++ rest) = some (.number t, rest) := by
  obtain ⟨n, rfl⟩ := Nat.exists_eq_add_one_of_ne_zero (Nat.ne_of_gt hn)
  obtain ⟨c, cs, ht, hc⟩ := head_of_isNumber t.valid
  obtain ⟨c', cs', ht', hspace, -⟩ := text_cons (.number t)
  obtain ⟨rfl, rfl⟩ := List.cons.inj (ht.symm.trans ht')
  have hread := readNumber_text t hrest
  rw [ht, List.cons_append] at hread ⊢
  rw [readValue, skip_cons hspace]
  have hother : ∀ a ∈ ['"', '[', '\x7b', 'n', 't', 'f'], c ≠ a := by
    intro a ha
    refine ne_of_begins hc ?_
    revert a
    simp
  simp only [List.forall_mem_cons] at hother
  obtain ⟨hquote, harray, hobject, hn, ht, hf, -⟩ := hother
  simp only [hquote, harray, hobject, hn, ht, hf, if_false, hread]

theorem readValue_string (s : String) {n : Nat} (rest : List Char)
    (hn : (quote s.toList).length ≤ n) :
    readValue n (quote s.toList ++ rest) = some (.string s, rest) := by
  rw [length_quote] at hn
  obtain ⟨n, rfl⟩ : ∃ m, n = m + 1 := ⟨n - 1, by omega⟩
  have hread := readString_escape (n := n) s.toList rest (by omega)
  rw [quote_append, readValue, skip_cons rfl]
  simp [hread]

theorem separated_texts_cons (d : Datum) (ds : List Datum) :
    ∃ c cs, separated ',' (texts (d :: ds)) = c :: cs ∧ isSpace c = false ∧ c ≠ ']' := by
  obtain ⟨c, cs, hd, hc⟩ := d.text_cons
  cases ds with
  | nil => exact ⟨c, cs, by simp [texts, separated, hd], hc⟩
  | cons d' ds => exact ⟨c, _, by simp only [texts, separated, hd, List.cons_append]; rfl, hc⟩

theorem readValue_elements {n : Nat} {d : Datum} {ds : List Datum} {rest : List Char}
    (h : readElements n (separated ',' (texts (d :: ds)) ++ ']' :: rest) = some (d :: ds, rest)) :
    readValue (n + 1) (text (.array (d :: ds)) ++ rest) = some (.array (d :: ds), rest) := by
  obtain ⟨c, cs, hcs, hspace, hclosing⟩ := separated_texts_cons d ds
  have htext : text (.array (d :: ds)) ++ rest =
      '[' :: (separated ',' (texts (d :: ds)) ++ ']' :: rest) := by simp [text, Json.array]
  rw [htext, readValue, skip_cons rfl]
  rw [hcs, List.cons_append] at h ⊢
  simp [skip_cons hspace, hclosing, h]

theorem readValue_members {n : Nat} {m : String × Datum} {ms : List (String × Datum)}
    {rest : List Char}
    (h : readMembers n (separated ',' (memberTexts (m :: ms)) ++ '\x7d' :: rest) =
      some (m :: ms, rest)) :
    readValue (n + 1) (text (.object (m :: ms)) ++ rest) = some (.object (m :: ms), rest) := by
  obtain ⟨cs, hcs⟩ : ∃ cs, separated ',' (memberTexts (m :: ms)) = '"' :: cs := by
    cases ms with
    | nil => exact ⟨_, rfl⟩
    | cons m' ms => exact ⟨_, rfl⟩
  have htext : text (.object (m :: ms)) ++ rest =
      '\x7b' :: (separated ',' (memberTexts (m :: ms)) ++ '\x7d' :: rest) := by
    simp [text, Json.object]
  rw [htext, readValue, skip_cons rfl]
  rw [hcs, List.cons_append] at h ⊢
  simp [skip_cons (c := '"') rfl, h]

theorem readName_member {n : Nat} (name : String) (value rest : List Char)
    (hn : (quote name.toList).length ≤ n + 1) :
    readName n (member name.toList value ++ rest) = some (name, value ++ rest) := by
  rw [length_quote] at hn
  have hread := readString_escape (n := n) name.toList (':' :: (value ++ rest)) (by omega)
  rw [member, List.append_assoc, List.cons_append, quote_append, readName, skip_cons rfl]
  simp [hread, skip_cons (c := ':') rfl]

mutual

/-- A value is read back where its text stands. -/
theorem readValue_text : ∀ (d : Datum) {n : Nat} {rest : List Char}, d.text.length ≤ n →
    Stops isNumberChar rest → readValue n (d.text ++ rest) = some (d, rest)
  | .null, 0, _, hn, _ => by simp [text] at hn
  | .null, n + 1, rest, _, _ => by
    simp [readValue, text, skip, isSpace, readWord]
  | .bool b, 0, _, hn, _ => by cases b <;> simp [text] at hn
  | .bool b, n + 1, rest, _, _ => by
    cases b <;> simp [readValue, text, skip, isSpace, readWord]
  | .number t, n, rest, hn, hrest => by
    obtain ⟨c, cs, ht, -⟩ := text_cons (.number t)
    rw [ht, List.length_cons] at hn
    exact readValue_numeral t (by omega) hrest
  | .string s, n, rest, hn, _ => readValue_string s rest hn
  | .array ds, 0, _, hn, _ => by simp [text, Json.array] at hn
  | .array [], n + 1, rest, _, _ => by
    simp [readValue, text, Json.array, texts, separated, skip, isSpace]
  | .array (d :: ds), n + 1, rest, hn, _ => by
    have hlength : (separated ',' (texts (d :: ds))).length < n := by
      simp only [text, Json.array, List.length_cons, List.length_append, List.length_nil] at hn
      omega
    exact readValue_elements (readElements_texts d ds rest hlength)
  | .object ms, 0, _, hn, _ => by simp [text, Json.object] at hn
  | .object [], n + 1, rest, _, _ => by
    simp [readValue, text, Json.object, memberTexts, separated, skip, isSpace]
  | .object ((name, d) :: ms), n + 1, rest, hn, _ => by
    have hlength : (separated ',' (memberTexts ((name, d) :: ms))).length < n := by
      simp only [text, Json.object, List.length_cons, List.length_append, List.length_nil] at hn
      omega
    exact readValue_members (readMembers_texts name d ms rest hlength)

theorem readElements_texts : ∀ (d : Datum) (ds : List Datum) {n : Nat} (rest : List Char),
    (separated ',' (texts (d :: ds))).length < n →
      readElements n (separated ',' (texts (d :: ds)) ++ ']' :: rest) = some (d :: ds, rest)
  | d, [], n + 1, rest, hn => by
    have hlength : d.text.length ≤ n := by
      simp only [texts, separated] at hn
      omega
    have hread := readValue_text d hlength (stops_cons (c := ']') rfl rest)
    simp [texts, separated, readElements, hread, skip_cons (c := ']') rfl]
  | d, d' :: ds, n + 1, rest, hn => by
    simp only [texts, separated, List.length_append, List.length_cons] at hn
    have hread := readValue_text d (n := n) (by omega) (stops_cons (c := ',') rfl
      (separated ',' (texts (d' :: ds)) ++ ']' :: rest))
    have hrest := readElements_texts d' ds (n := n) rest (by simp only [texts]; omega)
    have htexts : separated ',' (texts (d :: d' :: ds)) ++ ']' :: rest =
        d.text ++ ',' :: (separated ',' (texts (d' :: ds)) ++ ']' :: rest) := by
      simp [texts, separated]
    rw [htexts, readElements, hread]
    simp [skip_cons (c := ',') rfl, hrest]

theorem readMembers_texts : ∀ (name : String) (d : Datum) (ms : List (String × Datum)) {n : Nat}
    (rest : List Char), (separated ',' (memberTexts ((name, d) :: ms))).length < n →
      readMembers n (separated ',' (memberTexts ((name, d) :: ms)) ++ '\x7d' :: rest) =
        some ((name, d) :: ms, rest)
  | name, d, [], n + 1, rest, hn => by
    simp only [memberTexts, separated, member, List.length_append, List.length_cons] at hn
    have hread := readValue_text d (n := n) (by omega) (stops_cons (c := '\x7d') rfl rest)
    have hname := readName_member (n := n) name d.text ('\x7d' :: rest) (by omega)
    simp [memberTexts, separated, readMembers, hname, hread, skip_cons (c := '\x7d') rfl]
  | name, d, (name', d') :: ms, n + 1, rest, hn => by
    simp only [memberTexts, separated, member, List.length_append, List.length_cons] at hn
    have hread := readValue_text d (n := n) (by omega) (stops_cons (c := ',') rfl
      (separated ',' (memberTexts ((name', d') :: ms)) ++ '\x7d' :: rest))
    have hname := readName_member (n := n) name d.text
      (',' :: (separated ',' (memberTexts ((name', d') :: ms)) ++ '\x7d' :: rest)) (by omega)
    have hrest := readMembers_texts name' d' ms (n := n) rest
      (by simp only [memberTexts, member]; omega)
    have htexts : separated ',' (memberTexts ((name, d) :: (name', d') :: ms)) ++ '\x7d' :: rest =
        member name.toList d.text ++
          ',' :: (separated ',' (memberTexts ((name', d') :: ms)) ++ '\x7d' :: rest) := by
      simp [memberTexts, separated]
    rw [htexts, readMembers, hname]
    simp [hread, skip_cons (c := ',') rfl, hrest]

end

/-- The text of a value stands for that value. -/
theorem read?_text (d : Datum) : read? d.text = some d := by
  have hread : readValue (d.text.length + 1) (d.text ++ []) = some (d, []) :=
    readValue_text d (by omega) (stops_nil _)
  rw [List.append_nil] at hread
  rw [read?, hread]
  rfl

end Datum

end Json

end CapabilityGateway
