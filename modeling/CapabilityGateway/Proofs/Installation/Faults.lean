import CapabilityGateway.Proofs.Installation.Plan
import Mathlib.Data.Nat.Find

/-!
# Which fault is reported

A binding has a fault when its name is not a capability name, when a binding before it has the same
name, or when the namespace has its name fixed to something else. An installation fails at the first
binding that has a fault, with the first of the three that it has. The bindings after it are not
looked at, and nothing is written before all of them are, so the namespace that counts is always the
one before the installation.

* `CapabilityName.isValid_iff`: what a capability name is.
* `Installation.Faulty`, `Installation.complaint`: the faults, and what is said of them.
* `Installation.plan_eq_error`: an examination fails where the bindings before have no fault.
* `Installation.run_reports_first_fault`: the result of an installation.
-/

namespace CapabilityGateway

namespace CapabilityName

/-- An ASCII letter, an underscore or a dollar sign. -/
def Opens (c : Char) : Prop :=
  ('A' ≤ c ∧ c ≤ 'Z') ∨ ('a' ≤ c ∧ c ≤ 'z') ∨ c = '_' ∨ c = '$'

/-- An identifier of ASCII letters, digits, underscores and dollar signs, which does not begin with
a digit and is not a reserved word. -/
structure Usable (name : String) : Prop where
  identifier : ∃ c cs, name.toList = c :: cs ∧ Opens c ∧ ∀ d ∈ cs, Opens d ∨ ('0' ≤ d ∧ d ≤ '9')
  free : name ∉ reservedWords

theorem isHead_iff {c : Char} : isHead c = true ↔ Opens c := by
  have hletter : c.isAlpha =
      (decide ('A' ≤ c ∧ c ≤ 'Z') || decide ('a' ≤ c) && decide (c ≤ 'z')) := rfl
  simp [isHead, Opens, hletter, or_assoc]

theorem isTail_iff {c : Char} : isTail c = true ↔ Opens c ∨ ('0' ≤ c ∧ c ≤ '9') := by
  have hdigit : c.isDigit = (decide ('0' ≤ c) && decide (c ≤ '9')) := rfl
  simp [isTail, isHead_iff, hdigit]

theorem isValid_iff {name : String} : isValid name = true ↔ Usable name := by
  unfold isValid
  cases hname : name.toList with
  | nil =>
    refine ⟨nofun, fun ⟨⟨c, cs, hcs, _⟩, _⟩ => ?_⟩
    rw [hname] at hcs
    cases hcs
  | cons c cs =>
    simp only [Bool.and_eq_true, isHead_iff, List.all_eq_true, isTail_iff, Bool.not_eq_true',
      List.contains_eq_mem, decide_eq_false_iff_not]
    constructor
    · rintro ⟨⟨hc, hcs⟩, hfree⟩
      exact ⟨⟨c, cs, hname, hc, hcs⟩, hfree⟩
    · rintro ⟨⟨c', cs', hname', hc, hcs⟩, hfree⟩
      cases hname.symm.trans hname'
      exact ⟨⟨hc, hcs⟩, hfree⟩

instance (name : String) : Decidable (Usable name) := decidable_of_iff _ isValid_iff

end CapabilityName

namespace Installation

open CapabilityName (Usable isValid_iff)

/-! ## Faults -/

/-- The name is bound to something else for good. -/
def Taken (g : Namespace) (b : String × Value) : Prop :=
  ∃ p, g.property? b.1 = some p ∧ p.attributes.configurable = false ∧
    p.identical (.fixedHidden b.2) = false

/-- Something speaks against a binding that comes after some others. -/
def Faulty (g : Namespace) (before : List (String × Value)) (b : String × Value) : Prop :=
  ¬ Usable b.1 ∨ b.1 ∈ Dictionary.names before ∨ Taken g b

/-- What is said of a binding with a fault: the first that it has. -/
def complaint (before : List (String × Value)) (b : String × Value) : CapabilityError :=
  if ¬ Usable b.1 then .invalidName b.1
  else if b.1 ∈ Dictionary.names before then .duplicate b.1
  else .collision b.1

/-- The binding at `i` has a fault, and none before it has. -/
structure FirstFault (g : Namespace) (bs : List (String × Value)) (i : Nat)
    (b : String × Value) : Prop where
  found : bs[i]? = some b
  faulty : Faulty g (bs.take i) b
  least : ∀ j c, j < i → bs[j]? = some c → ¬ Faulty g (bs.take j) c

variable {g : Namespace} {bs : List (String × Value)}

theorem taken_iff {b : String × Value} :
    Taken g b ↔ g.mayDefine b.1 (.fixedHidden b.2) = false := by
  rw [Taken, Namespace.mayDefine]
  cases g.property? b.1 <;> simp

/-! ## Examination -/

theorem examine_of_faulty {before : List (String × Value)} {seen : List String}
    (hseen : ∀ name, name ∈ seen ↔ name ∈ Dictionary.names before) {b : String × Value}
    (h : Faulty g before b) : examine g seen b.1 b.2 = .error (complaint before b) := by
  by_cases hname : Usable b.1
  · have hvalid := isValid_iff.mpr hname
    by_cases hrepeated : b.1 ∈ Dictionary.names before
    · simp [examine, complaint, hvalid, hname, hseen, hrepeated]
    · have htaken : Taken g b := (h.resolve_left (not_not.mpr hname)).resolve_left hrepeated
      simp [examine, complaint, hvalid, hname, hseen, hrepeated, taken_iff.mp htaken]
  · have hvalid : CapabilityName.isValid b.1 = false := by
      rw [Bool.eq_false_iff]
      exact fun hvalid => hname (isValid_iff.mp hvalid)
    simp [examine, complaint, hvalid, hname]

/-- What comes after a binding with a fault does not matter, if those before it have none. -/
theorem plan_eq_error {seen : List String} {before : List (String × Value)} {b : String × Value}
    {e : CapabilityError} (hbefore : ∃ ps, plan g seen before = .ok ps)
    (hb : examine g ((Dictionary.names before).reverse ++ seen) b.1 b.2 = .error e)
    (rest : List (String × Value)) : plan g seen (before ++ b :: rest) = .error e := by
  induction before generalizing seen with
  | nil =>
    have hb : examine g seen b.1 b.2 = .error e := hb
    rw [List.nil_append, plan_cons, hb]
    rfl
  | cons c before ih =>
    obtain ⟨ps, hps⟩ := hbefore
    rw [plan_cons] at hps
    rw [List.cons_append, plan_cons]
    cases hc : examine g seen c.1 c.2 with
    | error e' =>
      rw [hc] at hps
      cases hps
    | ok p =>
      rw [hc] at hps
      cases hrest : plan g (c.1 :: seen) before with
      | error e' =>
        rw [hrest] at hps
        cases hps
      | ok ps' =>
        have hplan := ih ⟨ps', hrest⟩ (by simpa using hb)
        simp only [Except.bind, hplan]
        rfl

theorem nodup_names_iff :
    (Dictionary.names bs).Nodup ↔
      ∀ i b, bs[i]? = some b → b.1 ∉ Dictionary.names (bs.take i) := by
  rw [Dictionary.names, List.Nodup, List.pairwise_map, List.pairwise_iff_getElem]
  constructor
  · intro h i b hb hmem
    obtain ⟨hi, rfl⟩ := List.getElem?_eq_some_iff.mp hb
    obtain ⟨c, hc, hname⟩ := List.mem_map.mp hmem
    obtain ⟨j, hj, rfl⟩ := List.mem_take_iff_getElem.mp hc
    exact h j i (by omega) hi (by omega) hname
  · intro h i j hi hj hlt hname
    have hmem : bs[i] ∈ bs.take j := List.mem_take_iff_getElem.mpr ⟨i, by omega, rfl⟩
    exact h j bs[j] (List.getElem?_eq_getElem hj) (List.mem_map.mpr ⟨bs[i], hmem, hname⟩)

theorem plan_eq_ok_iff_not_faulty :
    (∃ ps, plan g [] bs = .ok ps) ↔ ∀ i b, bs[i]? = some b → ¬ Faulty g (bs.take i) b := by
  constructor
  · rintro ⟨ps, hps⟩ i b hb hfaulty
    obtain ⟨hdistinct, hall, -⟩ := plan_eq_ok_iff.mp hps
    obtain ⟨hvalid, -, hfree⟩ := hall b (List.mem_of_getElem? hb)
    rcases hfaulty with hname | hrepeated | htaken
    · exact hname (isValid_iff.mp hvalid)
    · exact nodup_names_iff.mp hdistinct i b hb hrepeated
    · rw [taken_iff.mp htaken] at hfree
      cases hfree
  · intro h
    refine ⟨_, plan_eq_ok_iff.mpr ⟨nodup_names_iff.mpr ?_, fun b hb => ?_, rfl⟩⟩
    · exact fun i b hb hrepeated => h i b hb (.inr (.inl hrepeated))
    · obtain ⟨i, hi⟩ := List.getElem?_of_mem hb
      obtain ⟨hname, hother⟩ := not_or.mp (h i b hi)
      obtain ⟨-, hfree⟩ := not_or.mp hother
      rw [taken_iff, Bool.not_eq_false] at hfree
      exact ⟨isValid_iff.mpr (not_not.mp hname), by simp, hfree⟩

/-! ## The result -/

theorem exists_firstFault {i : Nat} {b : String × Value} (hb : bs[i]? = some b)
    (hfaulty : Faulty g (bs.take i) b) : ∃ j c, FirstFault g bs j c := by
  classical
  have hex : ∃ j c, bs[j]? = some c ∧ Faulty g (bs.take j) c := ⟨i, b, hb, hfaulty⟩
  obtain ⟨c, hc, hfaulty⟩ := Nat.find_spec hex
  refine ⟨Nat.find hex, c, hc, hfaulty, fun j d hlt hd hd' => ?_⟩
  exact Nat.find_min hex hlt ⟨d, hd, hd'⟩

theorem FirstFault.plan_eq {i : Nat} {b : String × Value} (h : FirstFault g bs i b)
    (rest : List (String × Value)) :
    plan g [] (bs.take i ++ b :: rest) = .error (complaint (bs.take i) b) := by
  refine plan_eq_error (plan_eq_ok_iff_not_faulty.mpr fun j c hc => ?_)
    (examine_of_faulty (by simp) h.faulty) rest
  have hlt : j < i := by
    have := (List.getElem?_eq_some_iff.mp hc).1
    rw [List.length_take] at this
    omega
  rw [List.getElem?_take_of_lt hlt] at hc
  rw [List.take_take, Nat.min_eq_left (Nat.le_of_lt hlt)]
  exact h.least j c hlt hc

theorem FirstFault.run_eq {i : Nat} {b : String × Value} (h : FirstFault g bs i b)
    (rest : List (String × Value)) :
    run g (bs.take (i + 1) ++ rest) =
      ⟨.error (complaint (bs.take i) b), g, noticesOf (complaint (bs.take i) b)⟩ := by
  obtain ⟨hi, rfl⟩ := List.getElem?_eq_some_iff.mp h.found
  rw [List.take_succ_eq_append_getElem hi, List.append_assoc, List.singleton_append,
    run_of_plan_error (by simp) (h.plan_eq rest)]

theorem FirstFault.run_self {i : Nat} {b : String × Value} (h : FirstFault g bs i b) :
    run g bs = ⟨.error (complaint (bs.take i) b), g, noticesOf (complaint (bs.take i) b)⟩ := by
  have hrun := h.run_eq (bs.drop (i + 1))
  rwa [List.take_append_drop] at hrun

theorem complaint_ne_emptySet (before : List (String × Value)) (b : String × Value) :
    complaint before b ≠ .emptySet := by
  unfold complaint
  split
  · nofun
  · split <;> nofun

theorem run_eq_ok_iff :
    (run g bs).result = .ok () ↔
      bs ≠ [] ∧ ∀ i b, bs[i]? = some b → ¬ Faulty g (bs.take i) b := by
  constructor
  · intro h
    have hinstallable := installable_of_run_ok h
    exact ⟨hinstallable.nonempty, plan_eq_ok_iff_not_faulty.mp ⟨_, hinstallable.plan_eq⟩⟩
  · rintro ⟨hne, hclean⟩
    obtain ⟨ps, hps⟩ := plan_eq_ok_iff_not_faulty.mpr hclean
    obtain ⟨hdistinct, hall, -⟩ := plan_eq_ok_iff.mp hps
    rw [run_of_installable ⟨hne, hdistinct, fun b hb => (hall b hb).1, fun b hb => (hall b hb).2.2⟩]

theorem run_eq_emptySet_iff : (run g bs).result = .error .emptySet ↔ bs = [] := by
  constructor
  · intro h
    by_contra hne
    by_cases hclean : ∀ i b, bs[i]? = some b → ¬ Faulty g (bs.take i) b
    · rw [run_eq_ok_iff.mpr ⟨hne, hclean⟩] at h
      cases h
    · push Not at hclean
      obtain ⟨i, b, hb, hfaulty⟩ := hclean
      obtain ⟨j, c, hfirst⟩ := exists_firstFault hb hfaulty
      rw [hfirst.run_self] at h
      exact complaint_ne_emptySet _ _ (Except.error.inj h)
  · rintro rfl
    rfl

/-- An installation finds its set empty exactly when there are no bindings. It succeeds exactly when
there are some and none has a fault. Otherwise the first fault of the first binding that has one is
reported, and the bindings after that one could be any others. -/
theorem run_reports_first_fault (g : Namespace) (bs : List (String × Value)) :
    ((run g bs).result = .error .emptySet ↔ bs = []) ∧
    ((run g bs).result = .ok () ↔
      bs ≠ [] ∧ ∀ i b, bs[i]? = some b → ¬ Faulty g (bs.take i) b) ∧
    ∀ i b, FirstFault g bs i b →
      (run g bs).result = .error (complaint (bs.take i) b) ∧
        ∀ rest, run g (bs.take (i + 1) ++ rest) = run g bs := by
  refine ⟨run_eq_emptySet_iff, run_eq_ok_iff, fun i b h => ⟨?_, fun rest => ?_⟩⟩
  · rw [h.run_self]
  · rw [h.run_eq rest, h.run_self]

/-- The second binding is what the namespace has already. The third repeats its name with another
value, so that two faults meet there, and the fourth is a reserved word. -/
theorem run_reports_first_fault_repeated :
    let g := Namespace.empty.write "net" (.fixedHidden .null)
    let bs := [("tls", .null), ("net", .null), ("net", .bool true), ("if", .null)]
    FirstFault g bs 2 ("net", .bool true) ∧ Taken g ("net", .bool true) ∧
      (run g bs).result = .error (.duplicate "net") ∧
      run g (bs.take 3) = run g bs := by
  intro g bs
  have htaken : Taken g ("net", .bool true) := ⟨.fixedHidden .null, rfl, rfl, rfl⟩
  have hfirst : FirstFault g bs 2 ("net", .bool true) := by
    refine ⟨rfl, .inr (.inr htaken), fun j c hlt hc => ?_⟩
    match j with
    | 0 =>
      cases hc
      simp only [Faulty, not_or, taken_iff]
      exact ⟨not_not.mpr (by decide), by simp, by decide⟩
    | 1 =>
      cases hc
      simp only [Faulty, not_or, taken_iff]
      exact ⟨not_not.mpr (by decide), by decide, by decide⟩
  obtain ⟨-, -, hreport⟩ := run_reports_first_fault g bs
  obtain ⟨hresult, hrest⟩ := hreport 2 _ hfirst
  exact ⟨hfirst, htaken, hresult, by simpa using hrest []⟩

end Installation

end CapabilityGateway
