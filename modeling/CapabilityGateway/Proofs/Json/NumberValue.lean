import CapabilityGateway.Proofs.Number.Layout
import CapabilityGateway.Proofs.Number.ReadBack

/-!
# The value of a JSON number

A text of the grammar of numbers stands for an exact rational, which is read off its digits: the
whole part, the fraction over its power of ten, and the exponent as a factor. Both layouts of a
decimal stand for the decimal.

* `Json.numberValue`: the value of a text.
* `Decimal.unsignedValue_positional`, `Decimal.unsignedValue_scientific`: the values of the layouts.
-/

namespace CapabilityGateway

namespace Json

/-- The value of a text of digits. -/
def digitsValue (t : List Char) : Nat := Nat.ofDigitChars 10 t 0

/-- The power of ten that an exponent with its mark stands for. -/
def exponentValue : List Char → ℤ
  | _ :: '-' :: t => -digitsValue t
  | _ :: '+' :: t => digitsValue t
  | _ :: t => digitsValue t
  | [] => 0

/-- The value of a number without a minus sign. -/
def unsignedValue (t : List Char) : ℚ :=
  let whole := digitsValue (t.takeWhile Char.isDigit)
  match t.dropWhile Char.isDigit with
  | '.' :: u =>
    let fraction := u.takeWhile Char.isDigit
    (whole + digitsValue fraction / 10 ^ fraction.length) *
      10 ^ exponentValue (u.dropWhile Char.isDigit)
  | u => whole * 10 ^ exponentValue u

/-- The value of a number. -/
def numberValue : List Char → ℚ
  | '-' :: t => -unsignedValue t
  | t => unsignedValue t

/-! ## Digits -/

theorem digitsValue_append (t u : List Char) :
    digitsValue (t ++ u) = digitsValue t * 10 ^ u.length + digitsValue u := by
  rw [digitsValue, Nat.ofDigitChars_append, Nat.ofDigitChars_eq_ofDigitChars_zero, Nat.mul_comm]
  rfl

theorem digitsValue_digits (n : Nat) : digitsValue (Decimal.digits n) = n :=
  Nat.ofDigitChars_toDigits (by decide) (by decide)

theorem digitsValue_zeros (n : Nat) : digitsValue (Decimal.zeros n) = 0 := by
  rw [digitsValue, Decimal.zeros, Nat.ofDigitChars_replicate_zero, Nat.mul_zero]

/-! ## Parts of a number -/

theorem unsignedValue_whole {w t : List Char} (hw : ∀ c ∈ w, c.isDigit = true)
    (ht : Stops Char.isDigit t) (hpoint : t.head? ≠ some '.') :
    unsignedValue (w ++ t) = digitsValue w * 10 ^ exponentValue t := by
  obtain ⟨htake, hdrop⟩ := span_append hw ht
  rw [unsignedValue, htake, hdrop]
  split
  next u => exact absurd rfl hpoint
  next => rfl

/-- The point of a number may be moved behind its last digit. -/
theorem unsignedValue_point {w f t : List Char} (hw : ∀ c ∈ w, c.isDigit = true)
    (hf : ∀ c ∈ f, c.isDigit = true) (ht : Stops Char.isDigit t) :
    unsignedValue (w ++ '.' :: (f ++ t)) =
      digitsValue (w ++ f) * 10 ^ (exponentValue t - f.length) := by
  obtain ⟨htake, hdrop⟩ := span_append hw (stops_cons (c := '.') rfl (f ++ t))
  obtain ⟨hfraction, hexponent⟩ := span_append hf ht
  simp only [unsignedValue, htake, hdrop, hfraction, hexponent]
  rw [digitsValue_append, zpow_sub₀ (by norm_num), zpow_natCast]
  push_cast
  field_simp

/-- A number without a minus sign is its own absolute value. -/
theorem numberValue_of_isUnsigned {t : List Char} (h : isUnsigned t = true) :
    numberValue t = unsignedValue t := by
  rw [numberValue.eq_def]
  split
  next t => exact absurd h (by simp [isUnsigned, isWhole, isDigits])
  next => rfl

end Json

namespace Decimal

theorem exponentValue_signed (n : ℤ) : Json.exponentValue ('e' :: signed n) = n := by
  rw [signed]
  split
  next hneg =>
    rw [Json.exponentValue, Json.digitsValue_digits]
    omega
  next hnonneg =>
    rw [Json.exponentValue, Json.digitsValue_digits]
    omega

theorem unsignedValue_positional (d : Decimal) : Json.unsignedValue d.positional = d.toRat := by
  have hdigits := isDigit_digits d.coefficient
  have hvalue := Json.digitsValue_digits d.coefficient
  simp only [positional]
  split
  next hexponent =>
    obtain ⟨e, he⟩ := Int.eq_ofNat_of_zero_le hexponent
    have hall : ∀ c ∈ digits d.coefficient ++ zeros d.exponent.toNat, c.isDigit = true :=
      List.forall_mem_append.mpr ⟨hdigits, isDigit_zeros _⟩
    rw [← List.append_nil (digits d.coefficient ++ zeros d.exponent.toNat),
      Json.unsignedValue_whole hall (Json.stops_nil _) (by simp), Json.digitsValue_append, hvalue,
      Json.digitsValue_zeros, toRat, he]
    simp [zeros, Json.exponentValue]
  next hexponent =>
    have hplaces : -((-d.exponent).toNat : ℤ) = d.exponent := by omega
    split
    next hlength =>
      generalize hcut : (digits d.coefficient).length - (-d.exponent).toNat = cut
      have hback : ((digits d.coefficient).drop cut).length = (-d.exponent).toNat := by
        rw [List.length_drop]
        omega
      have hpoint := Json.unsignedValue_point (t := [])
        (fun c hc => hdigits c (List.mem_of_mem_take hc) : ∀ c ∈ (digits d.coefficient).take cut, _)
        (fun c hc => hdigits c (List.mem_of_mem_drop hc) : ∀ c ∈ (digits d.coefficient).drop cut, _)
        (Json.stops_nil _)
      rw [List.append_nil, List.take_append_drop, hvalue, hback] at hpoint
      rw [hpoint, toRat, Json.exponentValue, zero_sub, hplaces]
    next hlength =>
      generalize hcount : (-d.exponent).toNat - (digits d.coefficient).length = count
      have hall : ∀ c ∈ zeros count ++ digits d.coefficient, c.isDigit = true :=
        List.forall_mem_append.mpr ⟨isDigit_zeros _, hdigits⟩
      have hback : (zeros count ++ digits d.coefficient).length = (-d.exponent).toNat := by
        rw [List.length_append, zeros, List.length_replicate]
        omega
      have hzeros : ['0'] ++ (zeros count ++ digits d.coefficient) =
          zeros (count + 1) ++ digits d.coefficient := rfl
      have hpoint := Json.unsignedValue_point (w := ['0']) (t := []) (isDigit_zeros 1) hall
        (Json.stops_nil _)
      rw [List.append_nil, hzeros, Json.digitsValue_append, Json.digitsValue_zeros, Nat.zero_mul,
        Nat.zero_add, hvalue, hback] at hpoint
      exact hpoint.trans (by rw [toRat, Json.exponentValue, zero_sub, hplaces])

theorem unsignedValue_scientific (d : Decimal) : Json.unsignedValue d.scientific = d.toRat := by
  have hdigits := isDigit_digits d.coefficient
  have hvalue := Json.digitsValue_digits d.coefficient
  have hstops : Json.Stops Char.isDigit ('e' :: signed d.leadingExponent) :=
    Json.stops_cons rfl _
  simp only [scientific]
  cases hds : digits d.coefficient with
  | nil => exact absurd hds (digits_ne_nil _)
  | cons c cs =>
    have hleading : d.leadingExponent - cs.length = d.exponent := by
      rw [leadingExponent, hds, List.length_cons]
      omega
    rw [hds] at hdigits hvalue
    cases cs with
    | nil =>
      rw [List.length_nil, Nat.cast_zero, sub_zero] at hleading
      rw [Json.unsignedValue_whole hdigits hstops (by simp), exponentValue_signed, hvalue, hleading,
        toRat]
    | cons c' cs =>
      have hpoint := Json.unsignedValue_point (w := [c]) (f := c' :: cs)
        (fun a ha => hdigits a (by simp_all)) (fun a ha => hdigits a (List.mem_cons_of_mem c ha))
        hstops
      rw [exponentValue_signed, hleading] at hpoint
      exact hpoint.trans (by rw [List.singleton_append, hvalue, toRat])

theorem unsignedValue_ite (d : Decimal) (p : Prop) [Decidable p] :
    Json.unsignedValue (if p then d.positional else d.scientific) = d.toRat := by
  split
  · exact d.unsignedValue_positional
  · exact d.unsignedValue_scientific

end Decimal

namespace Binary64

/-- The text of a number other than zero stands for its shortest decimal. -/
theorem numberValue_jsonText {n : Binary64} (hfinite : n.isFinite = true)
    (hzero : n.isZero = false) :
    Json.numberValue n.jsonText =
      if n.negative then -n.shortest.toRat else n.shortest.toRat := by
  have hpos := shortest_pos hfinite hzero
  rw [jsonText]
  simp only [hfinite, hzero, Bool.not_true, Bool.false_eq_true, if_false]
  split
  · rw [Json.numberValue, Decimal.unsignedValue_ite]
  · rw [Json.numberValue_of_isUnsigned (Decimal.isUnsigned_ite hpos _), Decimal.unsignedValue_ite]

end Binary64

end CapabilityGateway
