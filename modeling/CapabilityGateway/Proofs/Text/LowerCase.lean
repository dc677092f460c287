import CapabilityGateway.Text.LowerCase

/-!
# Words in lower case

Lower-casing goes by the full mapping of all characters, and some that are not ASCII become ASCII
letters: the sign for kelvin becomes a `k`, and the capital I with a dot above becomes an `i` with a
combining dot after it. Apart from these two, what is not ASCII stays outside of the letters and
digits of ASCII, and a sigma does so in either of its small forms. So the lower case of a text is a
word without a `k` only if the text is that word up to the case of ASCII letters.

* `Text.lowerChar_of_ascii`, `Text.exists_mem_lowered`: one character.
* `Text.lower_eq_iff`: a whole text.
-/

namespace CapabilityGateway

namespace Text

/-- A letter or digit that is in the lower case of no character but ASCII ones, as long as what
comes with it is one, too. -/
def isUnmistakable (c : Char) : Bool := c.isAlphanum && c != 'k'

/-- What holds of the characters up to U+007F one by one holds of all characters of ASCII. -/
theorem forall_ascii {P : Char → Prop} (h : ∀ n : Fin 0x80, P (Char.ofNat n)) {c : Char}
    (hc : c.toNat < 0x80) : P c := by
  have hchar := h ⟨c.toNat, hc⟩
  rwa [Char.ofNat_toNat] at hchar

theorem toNat_lt_of_isAlphanum {c : Char} (h : c.isAlphanum = true) : c.toNat < 0x80 := by
  have halphanum : c.isAlphanum = (decide ('A' ≤ c ∧ c ≤ 'Z') ||
      decide ('a' ≤ c) && decide (c ≤ 'z') || decide ('0' ≤ c) && decide (c ≤ '9')) := rfl
  simp only [halphanum, Bool.or_eq_true, Bool.and_eq_true, decide_eq_true_eq, Char.le_def,
    UInt32.le_iff_toNat_le] at h
  have hupper : 'Z'.val.toNat = 90 := rfl
  have hlower : 'z'.val.toNat = 122 := rfl
  have hdigit : '9'.val.toNat = 57 := rfl
  have hc : c.toNat = c.val.toNat := rfl
  omega

theorem isUnmistakable_of_le {c : Char} (h : 0x80 ≤ c.toNat) : isUnmistakable c = false := by
  have hnot : c.isAlphanum = false := by
    rw [Bool.eq_false_iff]
    intro hc
    have := toNat_lt_of_isAlphanum hc
    omega
  rw [isUnmistakable, hnot, Bool.false_and]

/-- Only capital letters of ASCII have another letter of ASCII as their small letter. -/
theorem toLower_eq_self {c : Char} (h : 0x80 ≤ c.toNat) : c.toLower = c := by
  have hupper : 'Z'.val.toNat = 90 := rfl
  have hc : c.toNat = c.val.toNat := rfl
  refine dif_neg fun hrange => ?_
  have := UInt32.le_iff_toNat_le.mp hrange.2
  omega

/-! ## One character -/

/-- One run holds the capital letters of ASCII, and all others begin beyond ASCII. -/
theorem lowerRuns_within : ∀ r ∈ lowerRuns,
    (r.first = 0x41 ∧ r.last = 0x5A ∧ r.shift = 32) ∨ 0x80 ≤ r.first := by
  decide +kernel

theorem toLower_of_ascii {c : Char} (h : c.toNat < 0x80) :
    c.toLower = if 0x41 ≤ c.toNat ∧ c.toNat ≤ 0x5A then Char.ofNat (c.toNat + 32) else c :=
  forall_ascii (P := fun c =>
    c.toLower = if 0x41 ≤ c.toNat ∧ c.toNat ≤ 0x5A then Char.ofNat (c.toNat + 32) else c)
    (by decide +kernel) h

theorem lowerChar_of_ascii {c : Char} (h : c.toNat < 0x80) : lowerChar c = [c.toLower] := by
  have hdotted : c ≠ '\u0130' := by
    rintro rfl
    exact absurd h (by decide)
  rw [lowerChar, if_neg hdotted, toLower_of_ascii h]
  split
  next r hr =>
    have hrange := of_decide_eq_true
      (List.find?_some (p := fun run : CaseRun => run.contains c.toNat) hr)
    rcases lowerRuns_within r (List.mem_of_find?_eq_some hr) with ⟨hfirst, hlast, hshift⟩ | hfirst
    · rw [if_pos (by omega), hshift]
      rfl
    · omega
  next hr =>
    have hcapitals : ⟨0x41, 0x5A, 1, 32⟩ ∈ lowerRuns := List.mem_cons_self
    have hnot := List.find?_eq_none.mp hr _ hcapitals
    simp only [CaseRun.contains, decide_eq_true_eq] at hnot
    rw [if_neg (by omega)]

/-- What is no code point of a character gives the character of code 0, which is no letter. -/
theorem isUnmistakable_ofNat {n : Nat} (h : 0x80 ≤ n) : isUnmistakable (Char.ofNat n) = false := by
  by_cases hvalid : n.isValidChar
  · have hn : Char.ofNat n = Char.ofNatAux n hvalid := dif_pos hvalid
    rw [hn]
    exact isUnmistakable_of_le h
  · have hn : Char.ofNat n = '\x00' := dif_neg hvalid
    rw [hn]
    rfl

/-- The runs beyond ASCII lead to small letters beyond ASCII, but for the sign for kelvin. -/
theorem lowerRuns_beyond : ∀ r ∈ lowerRuns,
    r.last < 0x80 ∨ (r.first = 0x212A ∧ r.last = 0x212A) ∨ (0x80 : Int) ≤ r.first + r.shift := by
  decide +kernel

theorem exists_mem_lowerChar {c : Char} (h : 0x80 ≤ c.toNat) :
    ∃ d ∈ lowerChar c, isUnmistakable d = false := by
  by_cases hkelvin : c = '\u212A'
  · subst hkelvin
    exact ⟨'k', by decide +kernel, rfl⟩
  · rw [lowerChar]
    split
    · exact ⟨'\u0307', by simp, by decide⟩
    · split
      next r hr =>
        have hrange := of_decide_eq_true
          (List.find?_some (p := fun run : CaseRun => run.contains c.toNat) hr)
        refine ⟨_, List.mem_singleton_self _, isUnmistakable_ofNat ?_⟩
        rcases lowerRuns_beyond r (List.mem_of_find?_eq_some hr) with
          hlast | ⟨hfirst, hlast⟩ | hshift
        · omega
        · have hc : c.toNat = 0x212A := by omega
          exact absurd (by rw [← Char.ofNat_toNat c, hc]) hkelvin
        · omega
      next => exact ⟨c, List.mem_singleton_self c, isUnmistakable_of_le h⟩

/-- The small form of a character that is not ASCII, the sigma included. -/
theorem exists_mem_lowered {c : Char} (h : 0x80 ≤ c.toNat) (before after : List Char) :
    ∃ d ∈ (if c = 'Σ' then [smallSigma before after] else lowerChar c),
      isUnmistakable d = false := by
  split
  · refine ⟨_, List.mem_singleton_self _, ?_⟩
    rw [smallSigma]
    split <;> decide
  · exact exists_mem_lowerChar h

/-! ## Texts -/

theorem ascii_of_lowerAfter {before s : List Char}
    (h : ∀ d ∈ lowerAfter before s, isUnmistakable d = true) : ∀ c ∈ s, c.toNat < 0x80 := by
  induction s generalizing before with
  | nil => simp
  | cons c s ih =>
    rw [lowerAfter] at h
    obtain ⟨hfirst, hrest⟩ := List.forall_mem_append.mp h
    refine List.forall_mem_cons.mpr ⟨Nat.lt_of_not_le fun hc => ?_, ih hrest⟩
    obtain ⟨d, hd, hnot⟩ := exists_mem_lowered hc before s
    rw [hfirst d hd] at hnot
    cases hnot

theorem lowerAfter_of_ascii {s : List Char} (h : ∀ c ∈ s, c.toNat < 0x80) (before : List Char) :
    lowerAfter before s = s.map Char.toLower := by
  induction s generalizing before with
  | nil => rfl
  | cons c s ih =>
    obtain ⟨hc, hs⟩ := List.forall_mem_cons.mp h
    have hsigma : c ≠ 'Σ' := by
      rintro rfl
      exact absurd hc (by decide)
    rw [lowerAfter, if_neg hsigma, lowerChar_of_ascii hc, ih hs]
    rfl

/-- The lower case of a text is the word just if the text is the word up to the case of ASCII
letters. -/
theorem lower_eq_iff {word : List Char} (hword : ∀ d ∈ word, isUnmistakable d = true)
    (s : List Char) : lower s = word ↔ s.map Char.toLower = word := by
  constructor
  · rintro rfl
    exact (lowerAfter_of_ascii (ascii_of_lowerAfter hword) []).symm
  · rintro rfl
    refine lowerAfter_of_ascii (fun c hc => Nat.lt_of_not_le fun hlarge => ?_) []
    have hunmistakable := hword c.toLower (List.mem_map_of_mem hc)
    rw [toLower_eq_self hlarge, isUnmistakable_of_le hlarge] at hunmistakable
    cases hunmistakable

end Text

end CapabilityGateway
