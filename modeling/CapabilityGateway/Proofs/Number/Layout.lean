import CapabilityGateway.Guest.Stringify
import CapabilityGateway.Proofs.Json.Number
import CapabilityGateway.Proofs.Number.Shortest

/-!
# Layouts of numbers

Both layouts of a decimal other than zero are JSON numbers, and so is the text of every finite
number.
-/

namespace CapabilityGateway

namespace Decimal

theorem isDigit_digits (n : Nat) : ∀ c ∈ digits n, c.isDigit = true :=
  fun _ hc => Nat.isDigit_of_mem_toDigits (by decide) (by decide) hc

theorem digits_ne_nil (n : Nat) : digits n ≠ [] := Nat.toDigits_ne_nil

theorem length_digits_pos (n : Nat) : 0 < (digits n).length :=
  List.length_pos_iff.mpr (digits_ne_nil n)

theorem isDigits_digits (n : Nat) : Json.isDigits (digits n) = true :=
  Json.isDigits_iff.mpr ⟨digits_ne_nil n, isDigit_digits n⟩

theorem digitChar_ne_zero {n : Nat} (hpos : 0 < n) (hten : n < 10) : n.digitChar ≠ '0' := by
  intro h
  have hvalue : n.digitChar.toNat = 48 + n := Nat.toNat_digitChar_of_lt_ten hten
  rw [h] at hvalue
  have hzero : ('0' : Char).toNat = 48 := rfl
  omega

theorem head?_append_of_ne_nil {w : List Char} (hw : w ≠ []) (t : List Char) :
    (w ++ t).head? = w.head? := by
  obtain ⟨c, cs, rfl⟩ := List.exists_cons_of_ne_nil hw
  rfl

/-- The first digit is not zero. -/
theorem head?_digits {n : Nat} (h : 0 < n) : (digits n).head? ≠ some '0' := by
  induction n using Nat.strongRecOn with
  | ind n ih =>
    rw [digits, Nat.toDigits_eq_if (by decide)]
    split
    next hten => simpa using digitChar_ne_zero h hten
    next hten =>
      have hquotient : 0 < n / 10 := by omega
      have hhead := ih (n / 10) (by omega) hquotient
      rwa [head?_append_of_ne_nil Nat.toDigits_ne_nil]

theorem isDigit_zeros (n : Nat) : ∀ c ∈ zeros n, c.isDigit = true := by
  intro c hc
  rw [List.eq_of_mem_replicate hc]
  rfl

/-- Digits that do not begin with a zero are a whole part. -/
theorem isWhole_of_head? {w : List Char} (hw : Json.isDigits w = true)
    (hhead : w.head? ≠ some '0') : Json.isWhole w = true := by
  simp [Json.isWhole, hw, hhead]

theorem isUnsigned_point {w f : List Char} (hw : Json.isWhole w = true)
    (hf : Json.isDigits f = true) : Json.isUnsigned (w ++ '.' :: f) = true := by
  have htail : Json.isTail ('.' :: (f ++ [])) = true :=
    Json.isTail_fraction hf (Json.stops_nil _) rfl
  rw [List.append_nil] at htail
  exact Json.isUnsigned_append hw (Json.stops_cons rfl _) htail

theorem isUnsigned_positional {d : Decimal} (h : 0 < d.coefficient) :
    Json.isUnsigned d.positional = true := by
  have hdigits := isDigit_digits d.coefficient
  have hne := digits_ne_nil d.coefficient
  have hhead := head?_digits h
  simp only [positional]
  split
  next hexponent =>
    have hwhole : Json.isWhole (digits d.coefficient ++ zeros d.exponent.toNat) = true := by
      refine isWhole_of_head? (Json.isDigits_iff.mpr ⟨by simp [hne], ?_⟩) ?_
      · intro c hc
        rcases List.mem_append.mp hc with hc | hc
        · exact hdigits c hc
        · exact isDigit_zeros _ c hc
      · rwa [head?_append_of_ne_nil hne]
    rw [← List.append_nil (digits d.coefficient ++ zeros d.exponent.toNat)]
    exact Json.isUnsigned_append hwhole (Json.stops_nil _) rfl
  next hexponent =>
    split
    next hplaces =>
      have hlength : 0 < (-d.exponent).toNat := by omega
      generalize hcut : (digits d.coefficient).length - (-d.exponent).toNat = cut
      have hfront : (digits d.coefficient).take cut ≠ [] := by
        rw [← List.length_pos_iff, List.length_take]
        omega
      have hback : (digits d.coefficient).drop cut ≠ [] := by
        rw [← List.length_pos_iff, List.length_drop]
        omega
      have hwhole : Json.isWhole ((digits d.coefficient).take cut) = true := by
        refine isWhole_of_head? (Json.isDigits_iff.mpr ⟨hfront, ?_⟩) ?_
        · exact fun c hc => hdigits c (List.mem_of_mem_take hc)
        · rwa [← head?_append_of_ne_nil hfront ((digits d.coefficient).drop cut),
            List.take_append_drop]
      have hfraction : Json.isDigits ((digits d.coefficient).drop cut) = true :=
        Json.isDigits_iff.mpr ⟨hback, fun c hc => hdigits c (List.mem_of_mem_drop hc)⟩
      exact isUnsigned_point hwhole hfraction
    next hplaces =>
      refine isUnsigned_point (w := ['0']) rfl (Json.isDigits_iff.mpr ⟨by simp [hne], ?_⟩)
      intro c hc
      rcases List.mem_append.mp hc with hc | hc
      · exact isDigit_zeros _ c hc
      · exact hdigits c hc

theorem isExponent_signed (n : Int) : Json.isExponent ('e' :: signed n) = true := by
  rw [signed]
  split <;> exact isDigits_digits n.natAbs

theorem isUnsigned_scientific {d : Decimal} (h : 0 < d.coefficient) :
    Json.isUnsigned d.scientific = true := by
  have hdigits := isDigit_digits d.coefficient
  have hhead := head?_digits h
  simp only [scientific]
  cases hds : digits d.coefficient with
  | nil => exact absurd hds (digits_ne_nil _)
  | cons c cs =>
    rw [hds] at hdigits hhead
    have hwhole : Json.isWhole [c] = true := by
      refine isWhole_of_head? (Json.isDigits_iff.mpr ⟨by simp, ?_⟩) (by simpa using hhead)
      simpa using hdigits c List.mem_cons_self
    have hexponent := isExponent_signed d.leadingExponent
    cases cs with
    | nil => exact Json.isUnsigned_append hwhole (Json.stops_cons rfl _) hexponent
    | cons c' cs =>
      have hfraction : Json.isDigits (c' :: cs) = true :=
        Json.isDigits_iff.mpr ⟨by simp, fun a ha => hdigits a (List.mem_cons_of_mem c ha)⟩
      have htail : Json.isTail ('.' :: (c' :: cs ++ 'e' :: signed d.leadingExponent)) = true :=
        Json.isTail_fraction hfraction (Json.stops_cons rfl _) hexponent
      exact Json.isUnsigned_append (w := [c]) hwhole (Json.stops_cons rfl _) htail

theorem isUnsigned_ite {d : Decimal} (h : 0 < d.coefficient) (p : Prop) [Decidable p] :
    Json.isUnsigned (if p then d.positional else d.scientific) = true := by
  split
  · exact isUnsigned_positional h
  · exact isUnsigned_scientific h

end Decimal

namespace Binary64

/-- The text of a finite number is a JSON number. -/
theorem isNumber_jsonText {n : Binary64} (h : n.isFinite = true) :
    Json.isNumber n.jsonText = true := by
  rw [jsonText]
  simp only [h, Bool.not_true, Bool.false_eq_true, if_false]
  split
  next => rfl
  next hzero =>
    have hpos : 0 < n.shortest.coefficient := shortest_pos h (by simpa using hzero)
    split
    · exact Decimal.isUnsigned_ite hpos _
    · exact Json.isNumber_of_isUnsigned (Decimal.isUnsigned_ite hpos _)

end Binary64

end CapabilityGateway
