import CapabilityGateway.Proofs.Json.NumberValue
import CapabilityGateway.Proofs.Number.Notation

/-!
# The text of a number

The text of a finite number is a JSON number, and whoever reads it back with correct rounding gets
the number again. It has the shortest digits that make this possible, laid out as ECMAScript does.
Only the sign of negative zero is lost.

* `Binary64.jsonText_eq`: the text is the shortest decimal as it is written.
* `Value.stringify_number`: the text on the console, with all that is known about it.
-/

namespace CapabilityGateway

namespace Binary64

variable {n : Binary64}

theorem jsonText_of_isZero (hfinite : n.isFinite = true) (hzero : n.isZero = true) :
    n.jsonText = ['0'] := by
  simp [jsonText, hfinite, hzero]

/-- The text of a number other than zero is its shortest decimal as it is written. -/
theorem jsonText_eq (hfinite : n.isFinite = true) (hzero : n.isZero = false) :
    n.jsonText = (if n.negative then ['-'] else []) ++ n.shortest.written := by
  have hwritten : n.shortest.written =
      if millionth.magnitude ≤ n.magnitude ∧ n.magnitude < sextillion.magnitude then
        n.shortest.positional
      else n.shortest.scientific := by
    rw [Decimal.written, Decimal.plain_eq_positional, Decimal.exponential_eq_scientific]
    exact if_congr (isPlain_shortest_iff hfinite hzero) rfl rfl
  rw [jsonText, hwritten]
  simp only [hfinite, hzero, Bool.not_true, Bool.false_eq_true, if_false]
  split <;> rfl

/-- The text reads back as the number, and that of both zeros as positive zero. -/
theorem roundsTo_jsonText (hfinite : n.isFinite = true) :
    RoundsTo (Json.numberValue n.jsonText) (if n.isZero then ofMagnitude false 0 else n) := by
  by_cases hzero : n.isZero = true
  · have hvalue : Json.numberValue ['0'] = 0 := by
      have hwhole := Json.unsignedValue_whole (w := ['0']) (t := []) (Decimal.isDigit_zeros 1)
        (Json.stops_nil _) (by simp)
      rw [Json.numberValue_of_isUnsigned rfl]
      exact hwhole.trans (zero_mul _)
    rw [jsonText_of_isZero hfinite hzero, hvalue, if_pos hzero, roundsTo_iff, abs_zero]
    exact ⟨by decide, nearest_zero⟩
  · have hzero : n.isZero = false := by simpa using hzero
    have hnearest := (roundsTo_iff.mp (isShortest_shortest hfinite hzero).reads).2
    have hpos : 0 < n.shortest.toRat :=
      mul_pos (Nat.cast_pos.mpr (shortest_pos hfinite hzero)) (by positivity)
    rw [magnitude_unsigned] at hnearest
    rw [numberValue_jsonText hfinite hzero, hzero, roundsTo_iff]
    cases hsign : n.negative with
    | false =>
      have hvalue : ¬n.shortest.toRat < 0 := not_lt.mpr hpos.le
      refine ⟨hsign.trans (decide_eq_false hvalue).symm, ?_⟩
      exact hnearest
    | true =>
      have hvalue : -n.shortest.toRat < 0 := neg_lt_zero.mpr hpos
      refine ⟨hsign.trans (decide_eq_true hvalue).symm, ?_⟩
      rw [if_pos rfl, abs_neg]
      exact hnearest

end Binary64

namespace Value

open Binary64

theorem toList_stringify_number {n : Binary64} (h : n.isFinite = true) :
    (number n).stringify.toList = n.jsonText := by
  rw [stringify, String.toList_ofList]
  exact if_pos h

/-- What is known about the text of a finite number on the console. It is a JSON number; read back
with correct rounding it gives the number, or positive zero if the number is a zero. For other
numbers it has the shortest decimal that reads back. The point of this decimal is written out from
a millionth up to `10 ^ 21`, which the comparison of the number itself with these bounds decides. -/
theorem stringify_number {n : Binary64} (h : n.isFinite = true) :
    Json.isNumber (number n).stringify.toList = true ∧
    (∀ m, RoundsTo (Json.numberValue (number n).stringify.toList) m ↔
      m = if n.isZero then ofMagnitude false 0 else n) ∧
    (n.isZero = false →
      IsShortest n n.shortest ∧
      (number n).stringify.toList = (if n.negative then ['-'] else []) ++ n.shortest.written ∧
      (n.shortest.IsPlain ↔
        10 ^ (-6 : ℤ) ≤ n.shortest.toRat ∧ n.shortest.toRat < 10 ^ (21 : ℤ)) ∧
      (n.shortest.IsPlain ↔ millionth.toRat ≤ |n.toRat| ∧ |n.toRat| < sextillion.toRat)) := by
  rw [toList_stringify_number h]
  refine ⟨isNumber_jsonText h, fun m => ⟨fun hm => hm.unique (roundsTo_jsonText h), ?_⟩,
    fun hzero => ⟨isShortest_shortest h hzero, jsonText_eq h hzero, ?_, ?_⟩⟩
  · rintro rfl
    exact roundsTo_jsonText h
  · exact Decimal.isPlain_iff (shortest_pos h hzero)
  · rw [isPlain_shortest_iff h hzero, abs_toRat, toRat_of_not_negative (by decide +kernel),
      toRat_of_not_negative (by decide +kernel), level_strictMono.le_iff_le,
      level_strictMono.lt_iff_lt]

/-- The number just below a millionth is written with an exponent, and reads back. -/
theorem stringify_number_below_millionth :
    (⟨0x3EB0C6F7A0B5ED8C⟩ : Binary64).isFinite = true ∧
    (number ⟨0x3EB0C6F7A0B5ED8C⟩).stringify.toList = "9.999999999999997e-7".toList ∧
    RoundsTo (Json.numberValue "9.999999999999997e-7".toList) ⟨0x3EB0C6F7A0B5ED8C⟩ ∧
    ¬millionth.toRat ≤ |(⟨0x3EB0C6F7A0B5ED8C⟩ : Binary64).toRat| := by
  have hfinite : (⟨0x3EB0C6F7A0B5ED8C⟩ : Binary64).isFinite = true := by decide
  have hzero : (⟨0x3EB0C6F7A0B5ED8C⟩ : Binary64).isZero = false := by decide
  have hshortest : (⟨0x3EB0C6F7A0B5ED8C⟩ : Binary64).shortest = ⟨9999999999999997, -22⟩ := by
    decide +kernel
  obtain ⟨-, hreads, hnonzero⟩ := stringify_number hfinite
  obtain ⟨-, htext, -, hbounds⟩ := hnonzero hzero
  have htext : (number ⟨0x3EB0C6F7A0B5ED8C⟩).stringify.toList = "9.999999999999997e-7".toList := by
    rw [htext, hshortest]
    decide +kernel
  have hexponential : ¬(⟨0x3EB0C6F7A0B5ED8C⟩ : Binary64).shortest.IsPlain := by
    rw [hshortest]
    decide +kernel
  have hbelow : |(⟨0x3EB0C6F7A0B5ED8C⟩ : Binary64).toRat| < sextillion.toRat := by
    rw [abs_toRat, toRat_of_not_negative (by decide +kernel)]
    exact level_strictMono (by decide +kernel)
  refine ⟨hfinite, htext, ?_, fun hle => hexponential (hbounds.mpr ⟨hle, hbelow⟩)⟩
  rw [← htext, hreads, hzero]
  rfl

end Value

end CapabilityGateway
