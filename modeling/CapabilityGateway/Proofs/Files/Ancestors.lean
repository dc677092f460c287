import CapabilityGateway.Files.Path
import Mathlib.Data.List.Basic

/-!
# Going upwards along a path

The parents of a path are what the path spells out: each has the same anchor and one component less.
The one exception is the current directory written out, above which lies the empty path. So a path
has finitely many parents, not more than its text has characters, and `Path.ancestors` lists them
all.

* `Path.parent?_components`, `Path.components_up`: the parents in terms of components.
* `Path.up_isSome_iff`: how many parents there are.
* `Path.getElem?_ancestors`: the list of ancestors is `parent?` iterated until there is none.
-/

namespace CapabilityGateway

namespace Path

/-! ## Splitting and joining -/

theorem splitSlash_ne_nil (t : List Char) : splitSlash t ≠ [] := by
  cases t with
  | nil => simp [splitSlash]
  | cons c cs =>
    simp only [splitSlash]
    split
    · simp
    · split <;> simp

theorem joinSlash_cons {ss : List (List Char)} (hss : ss ≠ []) (s : List Char) :
    joinSlash (s :: ss) = s ++ '/' :: joinSlash ss := by
  cases ss with
  | nil => exact absurd rfl hss
  | cons t ss => rfl

theorem joinSlash_cons_char (c : Char) (s : List Char) (ss : List (List Char)) :
    joinSlash ((c :: s) :: ss) = c :: joinSlash (s :: ss) := by
  cases ss <;> rfl

theorem joinSlash_splitSlash (t : List Char) : joinSlash (splitSlash t) = t := by
  induction t with
  | nil => rfl
  | cons c cs ih =>
    rw [splitSlash]
    split
    next hc => rw [joinSlash_cons (splitSlash_ne_nil cs), ih, hc]; rfl
    next hc =>
      split
      next s ss hsplit => rw [joinSlash_cons_char, ← hsplit, ih]
      next hsplit => exact absurd hsplit (splitSlash_ne_nil cs)

theorem slash_not_mem_splitSlash (t : List Char) : ∀ s ∈ splitSlash t, '/' ∉ s := by
  induction t with
  | nil => simp [splitSlash]
  | cons c cs ih =>
    rw [splitSlash]
    split
    next hc => simpa using ih
    next hc =>
      split
      next s ss hsplit =>
        rw [hsplit] at ih
        intro r hr
        rcases List.mem_cons.mp hr with rfl | hr
        · have hs : '/' ∉ s := ih s List.mem_cons_self
          simpa [hs] using Ne.symm hc
        · exact ih r (List.mem_cons_of_mem s hr)
      next hsplit => exact absurd hsplit (splitSlash_ne_nil cs)

theorem splitSlash_append {s : List Char} (hs : '/' ∉ s) (t : List Char) :
    splitSlash (s ++ '/' :: t) = s :: splitSlash t := by
  induction s with
  | nil => simp [splitSlash]
  | cons c s ih =>
    obtain ⟨hc, hs⟩ := not_or.mp (mt List.mem_cons.mpr hs)
    rw [List.cons_append, splitSlash, if_neg (Ne.symm hc), ih hs]

theorem splitSlash_of_not_mem {s : List Char} (hs : '/' ∉ s) : splitSlash s = [s] := by
  induction s with
  | nil => rfl
  | cons c s ih =>
    obtain ⟨hc, hs⟩ := not_or.mp (mt List.mem_cons.mpr hs)
    rw [splitSlash, if_neg (Ne.symm hc), ih hs]

theorem splitSlash_joinSlash {ss : List (List Char)} (hne : ss ≠ []) (hss : ∀ s ∈ ss, '/' ∉ s) :
    splitSlash (joinSlash ss) = ss := by
  induction ss with
  | nil => exact absurd rfl hne
  | cons s ss ih =>
    have hs : '/' ∉ s := hss s List.mem_cons_self
    rcases eq_or_ne ss [] with rfl | hrest
    · exact splitSlash_of_not_mem hs
    · rw [joinSlash_cons hrest, splitSlash_append hs,
        ih hrest fun r hr => hss r (List.mem_cons_of_mem s hr)]

/-! ## The anchor -/

/-- The anchor can be told from the segments of the whole text. -/
theorem anchorOf_joinSlash {s : List Char} (hs : '/' ∉ s) (ss : List (List Char)) :
    anchorOf (joinSlash (s :: ss)) =
      if s = ['.'] then ['.'] else if s = [] ∧ ss ≠ [] then ['/'] else [] := by
  match s, ss with
  | [], [] => rfl
  | [], r :: ss => rfl
  | c :: s, ss =>
    have hc : c ≠ '/' := fun h => hs (h ▸ List.mem_cons_self)
    rw [joinSlash_cons_char]
    by_cases hdot : c = '.'
    · subst hdot
      match s, ss with
      | [], [] => rfl
      | [], r :: ss => rfl
      | d :: s, ss =>
        have hd : d ≠ '/' := fun h => hs (h ▸ List.mem_cons_of_mem _ List.mem_cons_self)
        rw [joinSlash_cons_char]
        simp [anchorOf, hd]
    · simp [anchorOf, hc, hdot]

theorem anchorOf_prefix (t : List Char) : anchorOf t ++ t.drop (anchorOf t).length = t := by
  unfold anchorOf
  split <;> simp

theorem text_eq (p : Path) : p.anchor ++ joinSlash p.segments = p.text.toList := by
  rw [segments, joinSlash_splitSlash, anchor, anchorOf_prefix]

theorem slash_not_mem_segments (p : Path) : ∀ s ∈ p.segments, '/' ∉ s :=
  slash_not_mem_splitSlash _

theorem anchorOf_cases (t : List Char) :
    (∃ r, t = '/' :: r) ∨ t = ['.'] ∨ (∃ r, t = '.' :: '/' :: r) ∨ anchorOf t = [] := by
  fun_cases anchorOf t <;> simp_all

/-- Cutting a text between two segments keeps its anchor. -/
theorem anchorOf_cut {t : List Char} {kept : List (List Char)}
    (hkept : kept <+: splitSlash (t.drop (anchorOf t).length)) :
    anchorOf (anchorOf t ++ joinSlash kept) = anchorOf t := by
  rcases anchorOf_cases t with ⟨r, rfl⟩ | rfl | ⟨r, rfl⟩ | hnone
  · rfl
  · have hlone : kept <+: [[]] := hkept
    rcases List.prefix_cons_iff.mp hlone with rfl | ⟨ks, rfl, hks⟩
    · rfl
    · rw [List.prefix_nil.mp hks]
      rfl
  · have hfirst : kept <+: [] :: splitSlash r := by simpa [anchorOf, splitSlash] using hkept
    rcases List.prefix_cons_iff.mp hfirst with rfl | ⟨ks, rfl, -⟩
    · rfl
    · cases ks <;> rfl
  · -- Without an anchor, the first segment stays and is the first of the whole text.
    rw [hnone, List.length_nil, List.drop_zero] at hkept
    rw [hnone, List.nil_append]
    cases kept with
    | nil => rfl
    | cons k ks =>
      obtain ⟨ss, hss⟩ := hkept
      have hk : '/' ∉ k := slash_not_mem_splitSlash t k (hss ▸ List.mem_cons_self)
      have ht : anchorOf (joinSlash (k :: (ks ++ ss))) = [] := by
        rw [← List.cons_append, hss, joinSlash_splitSlash, hnone]
      rw [anchorOf_joinSlash hk] at ht ⊢
      have hdot : k ≠ ['.'] := by
        intro h
        simp [h] at ht
      have hroot : ¬(k = [] ∧ ks ≠ []) := by
        rintro ⟨rfl, hks⟩
        simp [hks] at ht
      rw [if_neg hdot, if_neg hroot]

/-! ## Components -/

/-- The segments that stand for something. -/
def components (p : Path) : List (List Char) := p.segments.filter (!isFiller ·)

theorem filter_dropWhile_isFiller (ss : List (List Char)) :
    (ss.dropWhile isFiller).filter (!isFiller ·) = ss.filter (!isFiller ·) := by
  induction ss with
  | nil => rfl
  | cons s ss ih =>
    by_cases hs : isFiller s = true
    · simp [hs, ih]
    · simp [hs]

theorem components_reverse (p : Path) :
    p.components.reverse = (p.segments.reverse.dropWhile isFiller).filter (!isFiller ·) := by
  rw [filter_dropWhile_isFiller, components, List.filter_reverse]

/-- The path that some of the first segments spell out. -/
theorem components_cut {p : Path} {kept : List (List Char)} (hkept : kept <+: p.segments) :
    (Path.mk (String.ofList (p.anchor ++ joinSlash kept))).anchor = p.anchor ∧
    (Path.mk (String.ofList (p.anchor ++ joinSlash kept))).components =
      kept.filter (!isFiller ·) := by
  have hanchor : (Path.mk (String.ofList (p.anchor ++ joinSlash kept))).anchor = p.anchor := by
    rw [anchor, String.toList_ofList]
    exact anchorOf_cut hkept
  refine ⟨hanchor, ?_⟩
  rw [components, segments, hanchor, String.toList_ofList, List.drop_left]
  rcases eq_or_ne kept [] with rfl | hne
  · rfl
  · rw [splitSlash_joinSlash hne]
    intro s hs
    exact slash_not_mem_segments p s (hkept.subset hs)

/-- A parent has the same anchor and one component less. Only the current directory, written out,
loses its anchor instead. -/
theorem parent?_components {p q : Path} (h : p.parent? = some q) :
    q.components = p.components.dropLast ∧
    (p.components ≠ [] ∧ q.anchor = p.anchor ∨
      p.components = [] ∧ p.anchor = ['.'] ∧ q.anchor = []) := by
  have hreverse := components_reverse p
  rw [parent?] at h
  split at h
  next s rest hdrop =>
    have hs : isFiller s = false := by
      have hne : p.segments.reverse.dropWhile isFiller ≠ [] := by simp [hdrop]
      simpa [hdrop] using List.head_dropWhile_not isFiller hne
    set kept := (rest.dropWhile isFiller).reverse with hkeptDef
    have hkept : kept <+: p.segments := by
      have hsuffix : rest.dropWhile isFiller <:+ p.segments.reverse := by
        have h1 : rest.dropWhile isFiller <:+ rest := List.dropWhile_suffix _
        have h2 : s :: rest <:+ p.segments.reverse := hdrop ▸ List.dropWhile_suffix _
        exact h1.trans ((List.suffix_cons s rest).trans h2)
      simpa [hkeptDef] using List.reverse_prefix.mpr hsuffix
    have hp : p.components = kept.filter (!isFiller ·) ++ [s] := by
      rw [← List.reverse_inj, hreverse, hdrop, List.filter_cons_of_pos (by simp [hs]),
        List.reverse_append, ← List.filter_reverse, hkeptDef, List.reverse_reverse,
        filter_dropWhile_isFiller]
      rfl
    cases h
    obtain ⟨hanchor, hcomponents⟩ := components_cut hkept
    refine ⟨?_, .inl ⟨by simp [hp], hanchor⟩⟩
    rw [hcomponents, hp, List.dropLast_concat]
  next hdrop =>
    split at h
    next hdot =>
      cases h
      have hp : p.components = [] := by simpa [hdrop] using hreverse
      exact ⟨by rw [hp]; rfl, .inr ⟨hp, hdot, rfl⟩⟩
    next => cases h

theorem parent?_eq_none {p : Path} (h : p.parent? = none) :
    p.components = [] ∧ p.anchor ≠ ['.'] := by
  have hreverse := components_reverse p
  rw [parent?] at h
  split at h
  next => cases h
  next hdrop =>
    split at h
    next => cases h
    next hdot => exact ⟨by simpa [hdrop] using hreverse, hdot⟩

/-! ## Iterated parents -/

/-- How many parents a path has. -/
def depth (p : Path) : Nat := p.components.length + if p.anchor = ['.'] then 1 else 0

theorem depth_parent? {p q : Path} (h : p.parent? = some q) : q.depth + 1 = p.depth := by
  obtain ⟨hcomponents, ⟨hp, hanchor⟩ | ⟨hp, hdot, hq⟩⟩ := parent?_components h
  · have hpos : 0 < p.components.length := List.length_pos_iff.mpr hp
    rw [depth, depth, hcomponents, hanchor, List.length_dropLast]
    omega
  · simp [depth, hcomponents, hp, hdot, hq]

theorem depth_of_parent?_none {p : Path} (h : p.parent? = none) : p.depth = 0 := by
  obtain ⟨hcomponents, hanchor⟩ := parent?_eq_none h
  simp [depth, hcomponents, hanchor]

theorem length_filter_le_joinSlash (ss : List (List Char)) :
    (ss.filter (!isFiller ·)).length ≤ (joinSlash ss).length := by
  induction ss with
  | nil => simp
  | cons s ss ih =>
    have hjoin : s.length + (joinSlash ss).length ≤ (joinSlash (s :: ss)).length := by
      rcases eq_or_ne ss [] with rfl | hss
      · simp [joinSlash]
      · rw [joinSlash_cons hss]
        simp
    by_cases hs : isFiller s = true
    · simp only [hs, Bool.not_true, Bool.false_eq_true, not_false_eq_true, List.filter_cons_of_neg]
      omega
    · have hlength : 0 < s.length := by
        rw [List.length_pos_iff]
        rintro rfl
        exact hs rfl
      simp only [hs, Bool.not_false, List.filter_cons_of_pos, List.length_cons]
      omega

theorem depth_le_length (p : Path) : p.depth ≤ p.text.length := by
  have hcomponents : p.components.length ≤ (joinSlash p.segments).length :=
    length_filter_le_joinSlash _
  have htext : p.anchor.length + (joinSlash p.segments).length = p.text.length := by
    rw [← List.length_append, text_eq, String.length_toList]
  rw [depth]
  split
  next hdot => rw [hdot] at htext; simp at htext; omega
  next => omega

/-- The parent taken a number of times. -/
def up : Nat → Path → Option Path
  | 0, p => some p
  | k + 1, p => p.parent?.bind (up k)

theorem getElem?_upwards {n : Nat} {p : Path} (hn : p.depth ≤ n) (k : Nat) :
    (upwards n p)[k]? = up k p := by
  induction n generalizing p k with
  | zero =>
    have hnone : p.parent? = none := by
      cases h : p.parent? with
      | none => rfl
      | some q =>
        have := depth_parent? h
        omega
    cases k <;> simp [upwards, up, hnone]
  | succ n ih =>
    cases k with
    | zero => simp [upwards, up]
    | succ k =>
      rw [upwards, List.getElem?_cons_succ, up]
      cases h : p.parent? with
      | none => simp
      | some q =>
        have := depth_parent? h
        exact ih (by omega) k

/-- The ancestors are the path and its parents, until there is none. -/
theorem getElem?_ancestors (p : Path) (k : Nat) : p.ancestors[k]? = up k p :=
  getElem?_upwards p.depth_le_length k

theorem up_isSome_iff {k : Nat} {p : Path} : (up k p).isSome ↔ k ≤ p.depth := by
  induction k generalizing p with
  | zero => simp [up]
  | succ k ih =>
    rw [up]
    cases h : p.parent? with
    | none =>
      have hdepth := depth_of_parent?_none h
      simp
      omega
    | some q =>
      have hdepth := depth_parent? h
      rw [Option.bind_some, ih]
      omega

/-- An ancestor spells out the first components of the path. -/
theorem components_up {k : Nat} {p q : Path} (h : up k p = some q) :
    q.components = p.components.take (p.components.length - k) := by
  induction k generalizing p with
  | zero =>
    cases h
    simp
  | succ k ih =>
    obtain ⟨r, hr, hq⟩ := Option.bind_eq_some_iff.mp h
    rw [ih hq, (parent?_components hr).1, List.dropLast_eq_take, List.take_take,
      List.length_take]
    congr 1
    omega

end Path

end CapabilityGateway
