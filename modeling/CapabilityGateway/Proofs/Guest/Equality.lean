import CapabilityGateway.Proofs.Number.Value
import CapabilityGateway.Proofs.Sameness

/-!
# The two equalities

Sameness is an equivalence. Equality is symmetric and transitive, but a value need not be equal to
itself: it is not when NaN can be reached from it through the elements of arrays. Nothing else keeps
the two apart but the sign of zero and the identity of arrays.

An identity stands for one array or object, so values in one heap that share an identity share what
it stands for. Sameness compares arrays by identity, and needs this to speak about their elements.

* `Value.number_eq_iff`, `Value.array_eq_iff` and the like: what a value is equal to.
* `Value.ReachesNaN`, `Value.eq_self_iff`: which values are equal to themselves.
* `Value.StoredIn`, `Value.same_cases`: what sameness says of values in one heap.
* `Value.equality_laws`: all laws together.
-/

namespace CapabilityGateway

namespace Binary64

/-! ## Numbers -/

theorem eq_of_bits {x y : Binary64} (h : x.bits = y.bits) : x = y := by
  cases x
  cases y
  exact congrArg mk h

theorem eq_iff {x y : Binary64} :
    x.eq y = true ↔
      x.isNaN = false ∧ y.isNaN = false ∧ (x = y ∨ x.isZero = true ∧ y.isZero = true) := by
  have hbits : x.bits = y.bits ↔ x = y := ⟨eq_of_bits, congrArg bits⟩
  simp [eq, hbits, and_assoc]

theorem eq_self_iff {x : Binary64} : x.eq x = true ↔ x.isNaN = false := by
  simp [eq_iff]

theorem eq_symm {x y : Binary64} (h : x.eq y = true) : y.eq x = true := by
  obtain ⟨hx, hy, hxy⟩ := eq_iff.mp h
  exact eq_iff.mpr ⟨hy, hx, hxy.imp Eq.symm And.symm⟩

theorem eq_trans {x y z : Binary64} (h₁ : x.eq y = true) (h₂ : y.eq z = true) :
    x.eq z = true := by
  obtain ⟨hx, -, hxy⟩ := eq_iff.mp h₁
  obtain ⟨-, hz, hyz⟩ := eq_iff.mp h₂
  refine eq_iff.mpr ⟨hx, hz, ?_⟩
  rcases hxy with rfl | ⟨hzx, hzy⟩
  · exact hyz
  · rcases hyz with rfl | ⟨-, hzz⟩
    · exact .inr ⟨hzx, hzy⟩
    · exact .inr ⟨hzx, hzz⟩

/-- Equal numbers are the same, the two zeros apart. -/
theorem same_iff_of_eq {x y : Binary64} (h : x.eq y = true) :
    x.same y = true ↔ ¬ (x.isZero = true ∧ y.isZero = true ∧ x.negative ≠ y.negative) := by
  obtain ⟨hx, -, rfl | ⟨hzx, hzy⟩⟩ := eq_iff.mp h
  · simp [same_refl]
  · constructor
    · rintro hsame ⟨-, -, hsign⟩
      rcases same_iff.mp hsame with hbits | ⟨hnan, -⟩
      · exact hsign (congrArg negative (eq_of_bits hbits))
      · rw [hx] at hnan
        cases hnan
    · intro hzeros
      have hsign : x.negative = y.negative := by
        by_contra hsign
        exact hzeros ⟨hzx, hzy, hsign⟩
      have hmagnitude : x.magnitude = y.magnitude :=
        (beq_iff_eq.mp hzx).trans (beq_iff_eq.mp hzy).symm
      rw [ext_parts hsign hmagnitude]
      exact same_refl y

end Binary64

namespace Value

/-! ## What a value is equal to -/

section Inversion

attribute [local simp] eq eqAll

variable {v : Value}

theorem undefined_eq_iff : undefined.eq v = true ↔ v = .undefined := by
  cases v <;> simp

theorem null_eq_iff : null.eq v = true ↔ v = .null := by
  cases v <;> simp

theorem bool_eq_iff {a : Bool} : (bool a).eq v = true ↔ v = .bool a := by
  cases v with
  | bool b => rw [eq, beq_iff_eq, bool.injEq, Eq.comm]
  | _ => simp

theorem number_eq_iff {m : Binary64} :
    (number m).eq v = true ↔ ∃ n, v = .number n ∧ m.eq n = true := by
  cases v <;> simp

theorem string_eq_iff {s : String} : (string s).eq v = true ↔ v = .string s := by
  cases v with
  | string t => rw [eq, beq_iff_eq, string.injEq, Eq.comm]
  | _ => simp

theorem array_eq_iff {i : Identity} {xs : List Value} :
    (array i xs).eq v = true ↔ ∃ j ys, v = .array j ys ∧ eqAll xs ys = true := by
  cases v <;> simp

theorem object_eq_iff {i : Identity} {ps : List (String × Value)} :
    (object i ps).eq v = true ↔ ∃ qs, v = .object i qs := by
  cases v with
  | object j qs =>
    rw [eq, beq_iff_eq]
    exact ⟨fun h => ⟨qs, by rw [h]⟩, fun ⟨_, h⟩ => (object.inj h).1.symm⟩
  | _ => simp

theorem function_eq_iff {f : Callable} :
    (function f).eq v = true ↔ ∃ g, v = .function g ∧ f.identity = g.identity := by
  cases v <;> simp

theorem eqAll_nil_iff {ys : List Value} : eqAll [] ys = true ↔ ys = [] := by
  cases ys <;> simp

theorem eqAll_cons_iff {x : Value} {xs ys : List Value} :
    eqAll (x :: xs) ys = true ↔
      ∃ y zs, ys = y :: zs ∧ x.eq y = true ∧ eqAll xs zs = true := by
  cases ys <;> simp

end Inversion

theorem eq_of_isNaN {n : Binary64} (h : n.isNaN = true) (v : Value) :
    (number n).eq v = false := by
  rw [Bool.eq_false_iff]
  intro heq
  obtain ⟨m, -, hnm⟩ := number_eq_iff.mp heq
  rw [(Binary64.eq_iff.mp hnm).1] at h
  cases h

/-! ## Symmetry and transitivity -/

mutual

theorem eq_symm : ∀ {u v : Value}, u.eq v = true → v.eq u = true
  | .undefined, v, h => by
    rw [undefined_eq_iff.mp h]
    exact undefined_eq_iff.mpr rfl
  | .null, v, h => by
    rw [null_eq_iff.mp h]
    exact null_eq_iff.mpr rfl
  | .bool a, v, h => by
    rw [bool_eq_iff.mp h]
    exact bool_eq_iff.mpr rfl
  | .number m, v, h => by
    obtain ⟨n, rfl, hmn⟩ := number_eq_iff.mp h
    exact number_eq_iff.mpr ⟨m, rfl, Binary64.eq_symm hmn⟩
  | .string s, v, h => by
    rw [string_eq_iff.mp h]
    exact string_eq_iff.mpr rfl
  | .array i xs, v, h => by
    obtain ⟨j, ys, rfl, hxy⟩ := array_eq_iff.mp h
    exact array_eq_iff.mpr ⟨i, xs, rfl, eqAll_symm hxy⟩
  | .object i ps, v, h => by
    obtain ⟨qs, rfl⟩ := object_eq_iff.mp h
    exact object_eq_iff.mpr ⟨ps, rfl⟩
  | .function f, v, h => by
    obtain ⟨g, rfl, hfg⟩ := function_eq_iff.mp h
    exact function_eq_iff.mpr ⟨f, rfl, hfg.symm⟩

theorem eqAll_symm : ∀ {xs ys : List Value}, eqAll xs ys = true → eqAll ys xs = true
  | [], ys, h => by
    rw [eqAll_nil_iff.mp h]
    rfl
  | x :: xs, ys, h => by
    obtain ⟨y, zs, rfl, hxy, hrest⟩ := eqAll_cons_iff.mp h
    exact eqAll_cons_iff.mpr ⟨x, xs, rfl, eq_symm hxy, eqAll_symm hrest⟩

end

mutual

theorem eq_trans : ∀ {u v x : Value}, u.eq v = true → v.eq x = true → u.eq x = true
  | .undefined, v, x, h₁, h₂ => by rwa [undefined_eq_iff.mp h₁] at h₂
  | .null, v, x, h₁, h₂ => by rwa [null_eq_iff.mp h₁] at h₂
  | .bool a, v, x, h₁, h₂ => by rwa [bool_eq_iff.mp h₁] at h₂
  | .number m, v, x, h₁, h₂ => by
    obtain ⟨n, rfl, hmn⟩ := number_eq_iff.mp h₁
    obtain ⟨k, rfl, hnk⟩ := number_eq_iff.mp h₂
    exact number_eq_iff.mpr ⟨k, rfl, Binary64.eq_trans hmn hnk⟩
  | .string s, v, x, h₁, h₂ => by rwa [string_eq_iff.mp h₁] at h₂
  | .array i xs, v, x, h₁, h₂ => by
    obtain ⟨j, ys, rfl, hxy⟩ := array_eq_iff.mp h₁
    obtain ⟨k, zs, rfl, hyz⟩ := array_eq_iff.mp h₂
    exact array_eq_iff.mpr ⟨k, zs, rfl, eqAll_trans hxy hyz⟩
  | .object i ps, v, x, h₁, h₂ => by
    obtain ⟨qs, rfl⟩ := object_eq_iff.mp h₁
    exact object_eq_iff.mpr (object_eq_iff.mp h₂)
  | .function f, v, x, h₁, h₂ => by
    obtain ⟨g, rfl, hfg⟩ := function_eq_iff.mp h₁
    obtain ⟨k, rfl, hgk⟩ := function_eq_iff.mp h₂
    exact function_eq_iff.mpr ⟨k, rfl, hfg.trans hgk⟩

theorem eqAll_trans : ∀ {xs ys zs : List Value}, eqAll xs ys = true → eqAll ys zs = true →
    eqAll xs zs = true
  | [], ys, zs, h₁, h₂ => by rwa [eqAll_nil_iff.mp h₁] at h₂
  | x :: xs, _, _, h₁, h₂ => by
    obtain ⟨y, ys, rfl, hxy, hxs⟩ := eqAll_cons_iff.mp h₁
    obtain ⟨z, zs, rfl, hyz, hys⟩ := eqAll_cons_iff.mp h₂
    exact eqAll_cons_iff.mpr ⟨z, zs, rfl, eq_trans hxy hyz, eqAll_trans hxs hys⟩

end

/-! ## Reflexivity -/

/-- The value is NaN, or NaN can be reached from it through elements of arrays. What is inside an
object does not count. -/
inductive ReachesNaN : Value → Prop
  | number {n : Binary64} (h : n.isNaN = true) : ReachesNaN (.number n)
  | element {i : Identity} {vs : List Value} {v : Value} (hv : v ∈ vs) (h : ReachesNaN v) :
      ReachesNaN (.array i vs)

theorem reachesNaN_number_iff {n : Binary64} : (number n).ReachesNaN ↔ n.isNaN = true :=
  ⟨fun | .number h => h, .number⟩

theorem reachesNaN_array_iff {i : Identity} {vs : List Value} :
    (array i vs).ReachesNaN ↔ ∃ v ∈ vs, v.ReachesNaN :=
  ⟨fun | .element hv h => ⟨_, hv, h⟩, fun ⟨_, hv, h⟩ => .element hv h⟩

mutual

theorem eq_self_iff : ∀ {v : Value}, v.eq v = true ↔ ¬ v.ReachesNaN
  | .undefined => ⟨nofun, fun _ => undefined_eq_iff.mpr rfl⟩
  | .null => ⟨nofun, fun _ => null_eq_iff.mpr rfl⟩
  | .bool _ => ⟨nofun, fun _ => bool_eq_iff.mpr rfl⟩
  | .number n => by
    have hself : (number n).eq (.number n) = n.eq n := by rw [eq]
    rw [hself, Binary64.eq_self_iff, reachesNaN_number_iff, Bool.not_eq_true]
  | .string _ => ⟨nofun, fun _ => string_eq_iff.mpr rfl⟩
  | .array i vs => by
    have hself : (array i vs).eq (.array i vs) = eqAll vs vs := by rw [eq]
    rw [hself, eqAll_self_iff, reachesNaN_array_iff]
    simp
  | .object _ ps => ⟨nofun, fun _ => object_eq_iff.mpr ⟨ps, rfl⟩⟩
  | .function f => ⟨nofun, fun _ => function_eq_iff.mpr ⟨f, rfl, rfl⟩⟩

theorem eqAll_self_iff : ∀ {vs : List Value}, eqAll vs vs = true ↔ ∀ v ∈ vs, ¬ v.ReachesNaN
  | [] => ⟨fun _ => by simp, fun _ => rfl⟩
  | v :: vs => by
    rw [eqAll, Bool.and_eq_true, eq_self_iff, eqAll_self_iff, List.forall_mem_cons]

end

end Value

/-! ## Values in a heap -/

/-- What identities stand for. Arrays and objects never change, so an identity stands for one
content as long as the heap lasts. -/
structure Heap where
  elements : Identity → List Value
  properties : Identity → List (String × Value)

namespace Value

/-- Every array and every object in the value has the content that the heap has for its identity.
What a callable does is not looked at. -/
inductive StoredIn (heap : Heap) : Value → Prop
  | undefined : StoredIn heap .undefined
  | null : StoredIn heap .null
  | bool (b : Bool) : StoredIn heap (.bool b)
  | number (n : Binary64) : StoredIn heap (.number n)
  | string (s : String) : StoredIn heap (.string s)
  | array {i : Identity} {vs : List Value} (content : vs = heap.elements i)
      (elements : ∀ v ∈ vs, StoredIn heap v) : StoredIn heap (.array i vs)
  | object {i : Identity} {ps : List (String × Value)} (content : ps = heap.properties i)
      (properties : ∀ p ∈ ps, StoredIn heap p.2) : StoredIn heap (.object i ps)
  | function (f : Callable) : StoredIn heap (.function f)

section

variable {heap : Heap} {u v : Value}

theorem StoredIn.elements_eq {i : Identity} {vs : List Value}
    (h : (Value.array i vs).StoredIn heap) : vs = heap.elements i := by
  cases h with
  | array content _ => exact content

theorem StoredIn.properties_eq {i : Identity} {ps : List (String × Value)}
    (h : (Value.object i ps).StoredIn heap) : ps = heap.properties i := by
  cases h with
  | object content _ => exact content

theorem StoredIn.of_mem {i : Identity} {vs : List Value} (h : (Value.array i vs).StoredIn heap) :
    ∀ v ∈ vs, v.StoredIn heap := by
  cases h with
  | array _ elements => exact elements

/-- Values of one heap that are the same are one and the same value, unless both are NaN, or are
callables of one identity. -/
theorem same_cases (hu : u.StoredIn heap) (hv : v.StoredIn heap) (h : u.same v = true) :
    u = v ∨
      (∃ m n, u = .number m ∧ v = .number n ∧ m.isNaN = true ∧ n.isNaN = true) ∨
      ∃ f g, u = .function f ∧ v = .function g ∧ f.identity = g.identity := by
  cases u with
  | number m =>
    cases v with
    | number n =>
      rcases Binary64.same_iff.mp h with hbits | ⟨hm, hn⟩
      · exact .inl (congrArg number (Binary64.eq_of_bits hbits))
      · exact .inr (.inl ⟨m, n, rfl, rfl, hm, hn⟩)
    | _ => simp [same, eq] at h
  | array i xs =>
    cases v with
    | array j ys =>
      cases beq_iff_eq.mp h
      exact .inl (by rw [hu.elements_eq, hv.elements_eq])
    | _ => simp [same, eq] at h
  | object i ps =>
    obtain ⟨qs, rfl⟩ := object_eq_iff.mp h
    exact .inl (by rw [hu.properties_eq, hv.properties_eq])
  | function f =>
    obtain ⟨g, rfl, hfg⟩ := function_eq_iff.mp h
    exact .inr (.inr ⟨f, g, rfl, rfl, hfg⟩)
  | undefined => exact .inl (undefined_eq_iff.mp h).symm
  | null => exact .inl (null_eq_iff.mp h).symm
  | bool a => exact .inl (bool_eq_iff.mp h).symm
  | string s => exact .inl (string_eq_iff.mp h).symm

theorem eq_iff_of_same (hu : u.StoredIn heap) (hv : v.StoredIn heap) (h : u.same v = true) :
    u.eq v = true ↔ ¬ u.ReachesNaN := by
  rcases same_cases hu hv h with rfl | ⟨m, n, rfl, rfl, hm, -⟩ | ⟨f, g, rfl, rfl, hfg⟩
  · exact eq_self_iff
  · simp [eq_of_isNaN hm, reachesNaN_number_iff, hm]
  · exact ⟨nofun, fun _ => function_eq_iff.mpr ⟨g, rfl, hfg⟩⟩

end

/-! ## Where equality is coarser -/

/-- Two zeros, one of them negative. -/
def OppositeZeros (u v : Value) : Prop :=
  ∃ m n, u = .number m ∧ v = .number n ∧ m.isZero = true ∧ n.isZero = true ∧
    m.negative ≠ n.negative

/-- Two arrays that are not the same one. -/
def DistinctArrays (u v : Value) : Prop :=
  ∃ i xs j ys, u = .array i xs ∧ v = .array j ys ∧ i ≠ j

/-- But for numbers and arrays, the two are one relation. -/
theorem same_of_eq {u v : Value} (h : u.eq v = true) (hnumber : ∀ n, u ≠ .number n)
    (harray : ∀ i xs, u ≠ .array i xs) : u.same v = true := by
  rw [same.eq_def]
  split
  · exact absurd rfl (hnumber _)
  · exact absurd rfl (harray _ _)
  · exact h

theorem same_iff_of_eq {u v : Value} (h : u.eq v = true) :
    u.same v = true ↔ ¬ (u.OppositeZeros v ∨ u.DistinctArrays v) := by
  cases u with
  | number m =>
    obtain ⟨n, rfl, hmn⟩ := number_eq_iff.mp h
    have hsame : (number m).same (.number n) = m.same n := rfl
    rw [hsame, Binary64.same_iff_of_eq hmn]
    simp [OppositeZeros, DistinctArrays]
  | array i xs =>
    obtain ⟨j, ys, rfl, -⟩ := array_eq_iff.mp h
    simp [same, OppositeZeros, DistinctArrays]
  | _ =>
    rw [same_of_eq h (by simp) (by simp)]
    simp [OppositeZeros, DistinctArrays]

/-! ## The laws -/

/-- Sameness is an equivalence. Equality is symmetric and transitive, and reflexive where no NaN can
be reached. Values of one heap that are the same are equal unless such a NaN is in the way, and
values that are equal are the same unless they are the two zeros or different arrays. -/
theorem equality_laws (a b c : Value) :
    (a.same a = true ∧ a.same b = b.same a ∧
      (a.same b = true → b.same c = true → a.same c = true)) ∧
    (a.eq b = b.eq a ∧ (a.eq b = true → b.eq c = true → a.eq c = true)) ∧
    (a.eq a = true ↔ ¬ a.ReachesNaN) ∧
    (∀ heap : Heap, a.StoredIn heap → b.StoredIn heap → a.same b = true →
      (a.eq b = true ↔ ¬ a.ReachesNaN)) ∧
    (a.eq b = true → (a.same b = true ↔ ¬ (a.OppositeZeros b ∨ a.DistinctArrays b))) := by
  refine ⟨⟨same_refl a, ?_, same_trans⟩, ⟨?_, eq_trans⟩, eq_self_iff,
    fun heap ha hb => eq_iff_of_same ha hb, same_iff_of_eq⟩
  · exact Bool.eq_iff_iff.mpr ⟨same_symm, same_symm⟩
  · exact Bool.eq_iff_iff.mpr ⟨eq_symm, eq_symm⟩

/-- Two arrays with zeros of both signs and an object that holds NaN, and two NaNs with other
bits. -/
theorem equality_laws_mixed :
    let box := Value.object 2 [("x", .number .nan)]
    let a := Value.array 1 [.number (.ofMagnitude false 0), box]
    let b := Value.array 3 [.number (.ofMagnitude true 0), box]
    let heap : Heap :=
      ⟨fun _ => [.number (.ofMagnitude false 0), box], fun _ => [("x", .number .nan)]⟩
    let quiet := Value.number .nan
    let loud := Value.number (.ofMagnitude true (Binary64.infinityMagnitude + 1))
    (a.eq b = true ∧ b.eq a = true ∧ a.eq a = true ∧ ¬ a.same b = true) ∧
      (a.StoredIn heap ∧ a.same a = true ∧ ¬ a.ReachesNaN) ∧
      quiet.same loud = true ∧ loud.same quiet = true ∧ quiet.same quiet = true ∧
        ¬ quiet.eq loud = true := by
  intro box a b heap quiet loud
  have hab : a.eq b = true := by decide
  have hstored : a.StoredIn heap := by
    have hbox : box.StoredIn heap :=
      .object rfl (List.forall_mem_cons.mpr ⟨.number _, by simp⟩)
    exact .array rfl (List.forall_mem_cons.mpr ⟨.number _, List.forall_mem_singleton.mpr hbox⟩)
  have hql : quiet.same loud = true := by decide
  obtain ⟨⟨haa, -⟩, ⟨hcomm, htrans⟩, -, hheap, hsame⟩ := equality_laws a b a
  obtain ⟨-, -, -, hself, -⟩ := equality_laws a a a
  obtain ⟨⟨-, hsymm, hsameTrans⟩, -, -, hnan, -⟩ := equality_laws quiet loud quiet
  have hba : b.eq a = true := hcomm ▸ hab
  have heq : a.eq a = true := htrans hab hba
  have hlq : loud.same quiet = true := hsymm ▸ hql
  refine ⟨⟨hab, hba, heq, fun h => (hsame hab).mp h ?_⟩,
    ⟨hstored, haa, (hself heap hstored hstored haa).mp heq⟩,
    hql, hlq, hsameTrans hql hlq, fun h => (hnan heap (.number _) (.number _) hql).mp h ?_⟩
  · exact .inr ⟨_, _, _, _, rfl, rfl, by decide⟩
  · exact .number (by decide)

end Value

end CapabilityGateway
