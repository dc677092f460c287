/-!
# JSON numbers

The grammar of numbers in a JSON text: an optional minus sign, a whole part without needless zeros,
an optional fraction and an optional exponent.

* `Json.isNumber`: a text is a number.
* `Json.isUnsigned_append`: how a number is put together.
-/

namespace CapabilityGateway

namespace Json

/-! ## Grammar -/

/-- One digit or more. -/
def isDigits (t : List Char) : Bool := !t.isEmpty && t.all Char.isDigit

/-- The whole part, where only zero begins with a zero. -/
def isWhole (t : List Char) : Bool := isDigits t && (t == ['0'] || t.head? != some '0')

def isExponent : List Char → Bool
  | [] => true
  | e :: t =>
    (e == 'e' || e == 'E') &&
      isDigits (match t with
        | '+' :: t => t
        | '-' :: t => t
        | t => t)

/-- A fraction and an exponent, each of them optional. -/
def isTail : List Char → Bool
  | '.' :: t => isDigits (t.takeWhile Char.isDigit) && isExponent (t.dropWhile Char.isDigit)
  | t => isExponent t

def isUnsigned (t : List Char) : Bool :=
  isWhole (t.takeWhile Char.isDigit) && isTail (t.dropWhile Char.isDigit)

def isNumber : List Char → Bool
  | '-' :: t => isUnsigned t
  | t => isUnsigned t

/-! ## Characters -/

/-- The characters that numbers are written with. -/
def isNumberChar (c : Char) : Bool := c.isDigit || ['-', '+', '.', 'e', 'E'].contains c

theorem isNumberChar_of_isDigit {c : Char} (h : c.isDigit = true) : isNumberChar c = true := by
  simp [isNumberChar, h]

theorem isDigits_iff {t : List Char} :
    isDigits t = true ↔ t ≠ [] ∧ ∀ c ∈ t, c.isDigit = true := by
  simp [isDigits]

theorem numberChars_of_isDigits {t : List Char} (h : isDigits t = true) :
    ∀ c ∈ t, isNumberChar c = true :=
  fun c hc => isNumberChar_of_isDigit ((isDigits_iff.mp h).2 c hc)

theorem numberChars_of_isExponent {t : List Char} (h : isExponent t = true) :
    ∀ c ∈ t, isNumberChar c = true := by
  cases t with
  | nil => simp
  | cons e t =>
    simp only [isExponent, Bool.and_eq_true, Bool.or_eq_true, beq_iff_eq] at h
    obtain ⟨he, hdigits⟩ := h
    have hmark : isNumberChar e = true := by rcases he with rfl | rfl <;> rfl
    have hrest : ∀ c ∈ t, isNumberChar c = true := by
      split at hdigits
      next t => exact List.forall_mem_cons.mpr ⟨rfl, numberChars_of_isDigits hdigits⟩
      next t => exact List.forall_mem_cons.mpr ⟨rfl, numberChars_of_isDigits hdigits⟩
      next => exact numberChars_of_isDigits hdigits
    exact List.forall_mem_cons.mpr ⟨hmark, hrest⟩

/-- The digits in front do not decide whether all characters are those of numbers. -/
theorem numberChars_of_dropWhile {t : List Char}
    (h : ∀ c ∈ t.dropWhile Char.isDigit, isNumberChar c = true) :
    ∀ c ∈ t, isNumberChar c = true := by
  intro c hc
  rw [← List.takeWhile_append_dropWhile (p := Char.isDigit) (l := t)] at hc
  rcases List.mem_append.mp hc with hdigit | hrest
  · exact isNumberChar_of_isDigit (List.all_eq_true.mp List.all_takeWhile c hdigit)
  · exact h c hrest

theorem numberChars_of_isTail {t : List Char} (h : isTail t = true) :
    ∀ c ∈ t, isNumberChar c = true := by
  rw [isTail.eq_def] at h
  split at h
  next t =>
    obtain ⟨-, hexponent⟩ := Bool.and_eq_true_iff.mp h
    have hrest := numberChars_of_dropWhile (numberChars_of_isExponent hexponent)
    exact List.forall_mem_cons.mpr ⟨rfl, hrest⟩
  next => exact numberChars_of_isExponent h

theorem numberChars_of_isUnsigned {t : List Char} (h : isUnsigned t = true) :
    ∀ c ∈ t, isNumberChar c = true :=
  numberChars_of_dropWhile (numberChars_of_isTail (Bool.and_eq_true_iff.mp h).2)

theorem numberChars_of_isNumber {t : List Char} (h : isNumber t = true) :
    ∀ c ∈ t, isNumberChar c = true := by
  rw [isNumber.eq_def] at h
  split at h
  next t => exact List.forall_mem_cons.mpr ⟨rfl, numberChars_of_isUnsigned h⟩
  next => exact numberChars_of_isUnsigned h

/-- A number begins with a digit or a minus sign. -/
theorem head_of_isNumber {t : List Char} (h : isNumber t = true) :
    ∃ c cs, t = c :: cs ∧ (c = '-' ∨ c.isDigit = true) := by
  rw [isNumber.eq_def] at h
  split at h
  next t => exact ⟨'-', t, rfl, .inl rfl⟩
  next =>
    obtain ⟨hwhole, -⟩ := Bool.and_eq_true_iff.mp h
    obtain ⟨hdigits, -⟩ := Bool.and_eq_true_iff.mp hwhole
    obtain ⟨hne, hall⟩ := isDigits_iff.mp hdigits
    cases t with
    | nil => exact absurd rfl hne
    | cons c cs =>
      refine ⟨c, cs, rfl, .inr ?_⟩
      by_cases hc : c.isDigit = true
      · exact hc
      · simp [hc] at hne

/-! ## Spans -/

/-- The text does not begin with a character of a class. -/
def Stops (p : Char → Bool) (t : List Char) : Prop := ∀ c ∈ t.head?, p c = false

theorem stops_nil (p : Char → Bool) : Stops p [] := by
  intro c hc
  cases hc

theorem stops_cons {p : Char → Bool} {c : Char} (hc : p c = false) (t : List Char) :
    Stops p (c :: t) := by
  intro d hd
  cases hd
  exact hc

/-- The longest part of a class is the part that was put in front. -/
theorem span_append {p : Char → Bool} {w t : List Char} (hw : ∀ c ∈ w, p c = true)
    (ht : Stops p t) : (w ++ t).takeWhile p = w ∧ (w ++ t).dropWhile p = t := by
  have hstop : t.takeWhile p = [] ∧ t.dropWhile p = t := by
    cases t with
    | nil => exact ⟨rfl, rfl⟩
    | cons c cs =>
      have hc : p c = false := ht c rfl
      simp [hc]
  rw [List.takeWhile_append_of_pos hw, List.dropWhile_append_of_pos hw, hstop.1, hstop.2]
  simp

/-! ## Putting numbers together -/

theorem isUnsigned_append {w t : List Char} (hw : isWhole w = true) (ht : Stops Char.isDigit t)
    (htail : isTail t = true) : isUnsigned (w ++ t) = true := by
  have hdigits := (isDigits_iff.mp (Bool.and_eq_true_iff.mp hw).1).2
  obtain ⟨htake, hdrop⟩ := span_append hdigits ht
  rw [isUnsigned, htake, hdrop, hw, htail]
  rfl

theorem isTail_fraction {f t : List Char} (hf : isDigits f = true) (ht : Stops Char.isDigit t)
    (hexponent : isExponent t = true) : isTail ('.' :: (f ++ t)) = true := by
  obtain ⟨htake, hdrop⟩ := span_append (isDigits_iff.mp hf).2 ht
  rw [isTail, htake, hdrop, hf, hexponent]
  rfl

theorem isNumber_of_isUnsigned {t : List Char} (h : isUnsigned t = true) : isNumber t = true := by
  rw [isNumber.eq_def]
  split
  next t => exact absurd h (by simp [isUnsigned, isWhole, isDigits])
  next => exact h

end Json

end CapabilityGateway
