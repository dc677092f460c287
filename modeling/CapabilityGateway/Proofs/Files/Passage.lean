import CapabilityGateway.Files.Tree
import CapabilityGateway.Proofs.Files.Ancestors

/-!
# Where the ancestors of a path lie

The ancestors of a path are found in its text, and the directories around a place are found in the
tree. Both are the same as long as the path only goes down: then its ancestors lie at the place that
it leads to and at those around it, as far as where the path starts. A path that goes up on its way
has ancestors elsewhere, namely wherever it has been before.

* `FileTree.passage`: the places that a path passes through.
* `FileTree.locate_ancestors`: the ancestors of a path lie where the path passes through.
* `FileTree.passage_of_descends`: a path that only goes down passes through the places around its
  end.
* `FileTree.resolve_join`: what lies in a directory that a path passes through.
-/

namespace CapabilityGateway

namespace Path

/-! ## A name in a directory -/

theorem splitSlash_append_slash (s t : List Char) :
    splitSlash (s ++ '/' :: t) = splitSlash s ++ splitSlash t := by
  induction s with
  | nil => simp [splitSlash]
  | cons c s ih =>
    rw [List.cons_append, splitSlash, splitSlash, ih]
    by_cases hc : c = '/'
    · simp [hc]
    · cases hs : splitSlash s with
      | nil => exact absurd hs (splitSlash_ne_nil s)
      | cons first rest => simp [hc]

theorem anchorOf_cons_cons (c d : Char) (r : List Char) :
    anchorOf (c :: d :: r) = anchorOf [c, d] := by
  by_cases hroot : c = '/'
  · subst hroot
    rfl
  · by_cases hdot : c = '.'
    · subst hdot
      by_cases hd : d = '/'
      · subst hd
        rfl
      · simp [anchorOf, hd]
    · simp [anchorOf, hroot, hdot]

/-- A text that goes on keeps its anchor, if a lone dot does not become part of a name. -/
theorem anchorOf_append {t e : List Char} (ht : t ≠ []) (he : t = ['.'] → ∃ r, e = '/' :: r) :
    anchorOf (t ++ e) = anchorOf t := by
  match t, ht with
  | [c], _ =>
    by_cases hdot : c = '.'
    · subst hdot
      obtain ⟨r, rfl⟩ := he rfl
      rfl
    · by_cases hroot : c = '/'
      · subst hroot
        rfl
      · simp [anchorOf, hroot, hdot]
  | c :: d :: r, _ =>
    rw [anchorOf_cons_cons c d r]
    exact anchorOf_cons_cons c d (r ++ e)

/-- The path of a name in a directory keeps the text of the directory, and a slash stands before the
name, unless the directory is the empty path. -/
theorem join_cases (d : Path) (name : String) :
    d.text = "" ∧ d.join name = ⟨name⟩ ∨
      d.text ≠ "" ∧ (d.join name).text.toList = d.text.toList ++ '/' :: name.toList ∨
      ∃ u, d.text.toList = u ++ ['/'] ∧ (d.join name).text.toList = u ++ '/' :: name.toList := by
  unfold join
  split
  next hlast =>
    have hempty : d.text = "" := by simpa using hlast
    exact .inl ⟨hempty, rfl⟩
  next hlast =>
    obtain ⟨u, hu⟩ := List.getLast?_eq_some_iff.mp hlast
    exact .inr (.inr ⟨u, hu, by simp [hu]⟩)
  next hlast =>
    have hne : d.text ≠ "" := by
      rintro hempty
      rw [hempty] at hlast
      cases hlast
    exact .inr (.inl ⟨hne, by simp⟩)

/-- A name that follows a slash is a segment of its own. -/
theorem splitSlash_name (r : List Char) {name : List Char} (hslash : '/' ∉ name) :
    splitSlash (r ++ '/' :: name) = splitSlash r ++ [name] := by
  rw [splitSlash_append_slash, splitSlash_of_not_mem hslash]

/-- What is after the anchor when a text goes on. -/
theorem anchor_append {p q : Path} {e : List Char} (hp : p.text ≠ "")
    (hq : q.text.toList = p.text.toList ++ e) (he : p.text.toList = ['.'] → ∃ r, e = '/' :: r) :
    q.anchor = p.anchor ∧
      q.segments = splitSlash (p.text.toList.drop p.anchor.length ++ e) := by
  have hanchor : q.anchor = p.anchor := by
    rw [anchor, hq]
    exact anchorOf_append (by simpa using hp) he
  have hlength : p.anchor.length ≤ p.text.toList.length := by
    have htext := congrArg List.length p.text_eq
    rw [List.length_append] at htext
    omega
  exact ⟨hanchor, by rw [segments, hanchor, hq, List.drop_append_of_le_length hlength]⟩

/-- The path of a name in a directory spells out the directory and then the name. -/
theorem segments_join (d : Path) {name : String} (hslash : '/' ∉ name.toList)
    (hname : isFiller name.toList = false) :
    (d.join name).anchor = d.anchor ∧
      ∃ ss, (d.join name).segments = ss ++ [name.toList] ∧
        ss.filter (!isFiller ·) = d.components := by
  rcases d.join_cases name with ⟨hempty, hjoin⟩ | hjoin | ⟨u, hd, hjoin⟩
  · -- The name alone has no anchor.
    have hnone : anchorOf name.toList = [] := by
      rcases anchorOf_cases name.toList with ⟨r, hr⟩ | hr | ⟨r, hr⟩ | hnone
      · simp [hr] at hslash
      · simp [hr, isFiller] at hname
      · simp [hr] at hslash
      · exact hnone
    have hd : d = ⟨""⟩ := congrArg Path.mk hempty
    refine ⟨by rw [hjoin, hd, anchor, hnone]; rfl, [], ?_, by rw [hd]; rfl⟩
    rw [hjoin, segments, anchor, hnone]
    exact splitSlash_of_not_mem hslash
  · obtain ⟨hanchor, hsegments⟩ := anchor_append hjoin.1 hjoin.2 fun _ => ⟨_, rfl⟩
    exact ⟨hanchor, d.segments, by rw [hsegments, splitSlash_name _ hslash]; rfl, rfl⟩
  · have hne : d.text ≠ "" := by
      intro hempty
      rw [hempty] at hd
      simp at hd
    have hgoes : (d.join name).text.toList = d.text.toList ++ name.toList := by
      rw [hjoin, hd, List.append_assoc]
      rfl
    obtain ⟨hanchor, hsegments⟩ := anchor_append hne hgoes fun hdot => by
      rw [hd] at hdot
      have hlast := congrArg List.getLast? hdot
      rw [List.getLast?_concat] at hlast
      cases hlast
    refine ⟨hanchor, ?_⟩
    rw [hsegments, components, segments, hd]
    by_cases hlength : d.anchor.length ≤ u.length
    · rw [List.drop_append_of_le_length hlength, List.append_assoc]
      refine ⟨splitSlash (u.drop d.anchor.length), splitSlash_name _ hslash, ?_⟩
      rw [splitSlash_append_slash, List.filter_append]
      simp [splitSlash, isFiller]
    · -- The directory is the root.
      have hroot : (u ++ ['/']).drop d.anchor.length = [] := by
        rw [List.drop_eq_nil_iff, List.length_append, List.length_singleton]
        omega
      rw [hroot]
      exact ⟨[], splitSlash_of_not_mem hslash, rfl⟩

/-- The path does not go up on its way. -/
def Descends (p : Path) : Prop := ['.', '.'] ∉ p.components

instance (p : Path) : Decidable p.Descends :=
  inferInstanceAs (Decidable (['.', '.'] ∉ p.components))

end Path

namespace FileTree

variable {t : FileTree} {p d : Path} {l : Location}

/-! ## Following segments -/

theorem foldl_step_filter (l : Location) (ss : List (List Char)) :
    (ss.filter (!Path.isFiller ·)).foldl step l = ss.foldl step l := by
  induction ss generalizing l with
  | nil => rfl
  | cons s ss ih =>
    by_cases hs : Path.isFiller s = true
    · simp [hs, ih, step]
    · simp [hs, ih]

theorem foldl_step_descends (l : Location) {ss : List (List Char)}
    (hfiller : ∀ s ∈ ss, Path.isFiller s = false) (hss : ['.', '.'] ∉ ss) :
    ss.foldl step l = (ss.map String.ofList).reverse ++ l := by
  induction ss generalizing l with
  | nil => rfl
  | cons s ss ih =>
    obtain ⟨hs, hrest⟩ := List.forall_mem_cons.mp hfiller
    obtain ⟨hup, hss⟩ := not_or.mp (mt List.mem_cons.mpr hss)
    have hstep : step l s = String.ofList s :: l := by
      rw [step, if_neg (by simp [hs]), if_neg (Ne.symm hup)]
    rw [List.foldl_cons, hstep, ih _ hrest hss]
    simp

/-- The segments lead from one directory to the next, and to a directory. -/
def Solid (t : FileTree) : Location → List (List Char) → Prop
  | l, [] => t.at? l = some .directory
  | l, s :: rest => t.at? l = some .directory ∧ t.Solid (step l s) rest

namespace Solid

variable {ss : List (List Char)}

theorem start (h : t.Solid l ss) : t.at? l = some .directory := by
  cases ss with
  | nil => exact h
  | cons s rest => exact h.1

theorem target (h : t.Solid l ss) : t.at? (ss.foldl step l) = some .directory := by
  induction ss generalizing l with
  | nil => exact h
  | cons s rest ih => exact ih h.2

theorem take (h : t.Solid l ss) (n : Nat) : t.Solid l (ss.take n) := by
  induction ss generalizing l n with
  | nil =>
    rw [List.take_nil]
    exact h
  | cons s rest ih =>
    cases n with
    | zero => exact h.1
    | succ n => exact ⟨h.1, ih h.2 n⟩

end Solid

theorem solid_filter {ss : List (List Char)} :
    t.Solid l (ss.filter (!Path.isFiller ·)) ↔ t.Solid l ss := by
  induction ss generalizing l with
  | nil => exact Iff.rfl
  | cons s rest ih =>
    by_cases hs : Path.isFiller s = true
    · have hstep : step l s = l := if_pos hs
      rw [List.filter_cons_of_neg (by simp [hs]), ih, Solid, hstep]
      exact ⟨fun h => ⟨h.start, h⟩, And.right⟩
    · rw [List.filter_cons_of_pos (by simp [hs]), Solid, Solid, ih]

theorem solid_of_walk {ss : List (List Char)} {l' : Location} (h : t.walk l ss = .ok l')
    (hl : t.at? l' = some .directory) : t.Solid l ss ∧ ss.foldl step l = l' := by
  induction ss generalizing l with
  | nil =>
    cases h
    exact ⟨hl, rfl⟩
  | cons s rest ih =>
    rw [walk] at h
    split at h
    next hdirectory =>
      obtain ⟨hsolid, hend⟩ := ih h
      exact ⟨⟨hdirectory, hsolid⟩, hend⟩
    next => cases h
    next => cases h

theorem walk_of_solid {ss : List (List Char)} (h : t.Solid l ss) (s : List Char) :
    t.walk l (ss ++ [s]) = .ok (step (ss.foldl step l) s) := by
  induction ss generalizing l with
  | nil =>
    have hl : t.at? l = some .directory := h
    simp [walk, hl]
  | cons r rest ih =>
    rw [List.cons_append, walk, h.1]
    exact ih h.2

/-! ## The places that a path passes through -/

/-- The places that a path passes through, the last one first. -/
def passage (t : FileTree) (p : Path) : List Location :=
  (List.range (p.components.length + 1)).map fun k =>
    (p.components.take (p.components.length - k)).foldl step (t.start p)

/-- A place and those around it, as far as the place `top`. -/
def around (top l : Location) : List Location :=
  (List.range (l.length - top.length + 1)).map fun k => l.drop k

theorem locate_eq (t : FileTree) (p : Path) :
    t.locate p = p.components.foldl step (t.start p) :=
  (foldl_step_filter _ _).symm

/-- An ancestor starts where the path does, and lies where its first components lead. -/
theorem start_up {k : Nat} {q : Path} (t : FileTree) (h : p.up k = some q) :
    t.start q = t.start p := by
  induction k generalizing p with
  | zero =>
    cases h
    rfl
  | succ k ih =>
    obtain ⟨r, hr, hq⟩ := Option.bind_eq_some_iff.mp h
    rw [ih hq, start, start]
    rcases (Path.parent?_components hr).2 with ⟨-, hanchor⟩ | ⟨-, hp, hnone⟩
    · rw [hanchor]
    · rw [hp, hnone]
      rfl

theorem locate_up {k : Nat} {q : Path} (t : FileTree) (h : p.up k = some q) :
    t.locate q =
      (p.components.take (p.components.length - k)).foldl step (t.start p) := by
  rw [locate_eq, start_up t h, Path.components_up h]

/-- The ancestors of a path lie where it passes through. The current directory written out has the
empty path above it, which is the same place again. -/
theorem locate_ancestors (t : FileTree) (p : Path) :
    p.ancestors.map t.locate =
      t.passage p ++ if p.anchor = ['.'] then [t.start p] else [] := by
  refine List.ext_getElem? fun k => ?_
  rw [List.getElem?_map, Path.getElem?_ancestors]
  have hlength : (t.passage p).length = p.components.length + 1 := by simp [passage]
  cases hup : p.up k with
  | none =>
    have hk : ¬ k ≤ p.depth := by
      rw [← Path.up_isSome_iff, hup]
      exact Bool.false_ne_true
    rw [Path.depth] at hk
    rw [Option.map_none, eq_comm, List.getElem?_eq_none_iff, List.length_append, hlength]
    by_cases hdot : p.anchor = ['.']
    · rw [if_pos hdot] at hk ⊢
      rw [List.length_singleton]
      omega
    · rw [if_neg hdot] at hk ⊢
      rw [List.length_nil]
      omega
  | some q =>
    have hk : k ≤ p.depth := by
      rw [← Path.up_isSome_iff, hup]
      rfl
    rw [Option.map_some, locate_up t hup]
    by_cases hlast : k < p.components.length + 1
    · rw [List.getElem?_append_left (by omega), passage, List.getElem?_map,
        List.getElem?_range hlast, Option.map_some]
    · rw [Path.depth] at hk
      split at hk
      next hdot =>
        obtain rfl : k = p.components.length + 1 := by omega
        rw [if_pos hdot, List.getElem?_append_right (by omega), hlength]
        simp
      next => omega

/-- A path that only goes down leads to a place below the one where it starts, and passes through
those between. -/
theorem passage_of_descends (h : p.Descends) :
    t.start p <:+ t.locate p ∧ t.passage p = around (t.start p) (t.locate p) := by
  have hfiller : ∀ s ∈ p.components, Path.isFiller s = false := fun s hs => by
    simpa using (List.mem_filter.mp hs).2
  have htaken : ∀ n, (p.components.take n).foldl step (t.start p) =
      ((p.components.take n).map String.ofList).reverse ++ t.start p := fun n =>
    foldl_step_descends _ (fun s hs => hfiller s (List.mem_of_mem_take hs))
      fun hup => h (List.mem_of_mem_take hup)
  have hlocate : t.locate p = (p.components.map String.ofList).reverse ++ t.start p := by
    rw [locate_eq]
    exact foldl_step_descends _ hfiller h
  have hlength : (t.locate p).length - (t.start p).length = p.components.length := by
    rw [hlocate]
    simp
  refine ⟨⟨_, hlocate.symm⟩, ?_⟩
  rw [passage, around, hlength]
  refine List.map_congr_left fun k hk => ?_
  have hk : k ≤ p.components.length := Nat.lt_succ_iff.mp (List.mem_range.mp hk)
  rw [htaken, hlocate, List.drop_append_of_le_length (by simpa using hk), List.map_take,
    List.reverse_take]
  congr 2
  simp
  omega

/-- A path that leads to a directory passes through directories only. -/
theorem solid_of_resolve (h : t.resolve p = .ok (l, .directory)) :
    t.Solid (t.start p) p.components ∧ t.locate p = l := by
  unfold resolve at h
  split at h
  · cases h
  · split at h
    · cases h
    next l' hwalk =>
      split at h
      next n hat =>
        cases h
        obtain ⟨hsolid, hend⟩ := solid_of_walk hwalk hat
        exact ⟨solid_filter.mpr hsolid, hend⟩
      next => cases h

/-- What lies in a directory that is reached through directories. -/
theorem resolve_join (h : t.Solid (t.start d) d.components) {name : String}
    (hslash : '/' ∉ name.toList) (hname : Path.isFiller name.toList = false)
    (hup : name.toList ≠ ['.', '.']) :
    t.resolve (d.join name) =
      match t.at? (name :: t.locate d) with
      | some n => .ok (name :: t.locate d, n)
      | none => .error .missing := by
  obtain ⟨hanchor, ss, hsegments, hcomponents⟩ := d.segments_join hslash hname
  have hstart : t.start (d.join name) = t.start d := by rw [start, hanchor, start]
  have hne : (d.join name).text ≠ "" := by
    intro hempty
    have hlone : (d.join name).segments = [[]] := by
      rw [Path.segments, Path.anchor, hempty]
      rfl
    rw [hlone] at hsegments
    have hlast := congrArg List.getLast? hsegments
    rw [List.getLast?_concat, List.getLast?_singleton] at hlast
    rw [← Option.some.inj hlast] at hname
    cases hname
  have hlocate : ss.foldl step (t.start d) = t.locate d := by
    rw [locate_eq, ← hcomponents, foldl_step_filter]
  have hstep : step (t.locate d) name.toList = name :: t.locate d := by
    rw [step, if_neg (by simp [hname]), if_neg hup, String.ofList_toList]
  have hsolid : t.Solid (t.start d) ss := by
    rw [← hcomponents] at h
    exact solid_filter.mp h
  have hwalk : t.walk (t.start (d.join name)) (d.join name).segments =
      .ok (name :: t.locate d) := by
    rw [hstart, hsegments, walk_of_solid hsolid, hlocate, hstep]
  cases hat : t.at? (name :: t.locate d) with
  | none => simp only [resolve, if_neg hne, hwalk, hat]
  | some n => simp only [resolve, if_neg hne, hwalk, hat]

end FileTree

end CapabilityGateway
