import CapabilityGateway.Files.Tree

/-!
# Trees with other contents in one file

Paths are followed through directories only, so what a file contains has no part in where a path
leads. When one file gets other contents, every path leads where it led before, and only the paths
to that file find something else there.

* `FileTree.resolve_withContents`: what each path leads to afterwards.
* `FileTree.pathExists_withContents`, `FileTree.readText_withContents_of_not`: what stays.
-/

namespace CapabilityGateway

namespace FileTree

/-- The tree with other contents in the file at a location. -/
def withContents (t : FileTree) (location : Location) (content : ByteArray) : FileTree :=
  t.putNode location (some (.file content))

/-- The path leads to a file at the location. -/
def leadsTo (t : FileTree) (p : Path) (location : Location) : Bool :=
  match t.resolve p with
  | .ok (l, .file _) => l = location
  | _ => false

/-- The node at `l` after the file at `location` got other contents. -/
def replaced (location : Location) (content : ByteArray) (l : Location) (n : FileNode) : FileNode :=
  if l = location then .file content else n

variable {t : FileTree} {p : Path} {location : Location} {old content : ByteArray}

theorem exists_of_leadsTo (h : t.leadsTo p location = true) :
    ∃ old, t.resolve p = .ok (location, .file old) := by
  unfold leadsTo at h
  split at h
  next l old hresolve =>
    obtain rfl := of_decide_eq_true h
    exact ⟨old, hresolve⟩
  next => cases h

theorem at?_of_resolve {n : FileNode} (h : t.resolve p = .ok (location, n)) :
    t.at? location = some n := by
  unfold resolve at h
  split at h
  · cases h
  · split at h
    · cases h
    · split at h
      next hat =>
        cases h
        exact hat
      next => cases h

theorem at?_withContents (h : t.at? location = some (.file old)) (l : Location) :
    (t.withContents location content).at? l = (t.at? l).map (replaced location content l) := by
  cases l with
  | nil =>
    -- The root is a directory, so it is not the place of the file.
    have hne : [] ≠ location := by
      rintro rfl
      cases h
    rw [at?, at?, Option.map_some, replaced, if_neg hne]
  | cons name rest =>
    show (if name :: rest = location then some (.file content) else t.at? (name :: rest)) = _
    by_cases hl : name :: rest = location
    · subst hl
      rw [if_pos rfl, h, Option.map_some, replaced, if_pos rfl]
    · rw [if_neg hl]
      cases t.at? (name :: rest) with
      | none => rfl
      | some n => rw [Option.map_some, replaced, if_neg hl]

theorem walk_withContents (h : t.at? location = some (.file old)) (l : Location)
    (segments : List (List Char)) :
    (t.withContents location content).walk l segments = t.walk l segments := by
  induction segments generalizing l with
  | nil => rfl
  | cons s rest ih =>
    rw [walk, walk, at?_withContents h]
    by_cases hl : l = location
    · subst hl
      rw [h, Option.map_some, replaced, if_pos rfl]
    · cases hn : t.at? l with
      | none => rfl
      | some n =>
        rw [Option.map_some, replaced, if_neg hl]
        cases n with
        | directory => exact ih (step l s)
        | file c => rfl

theorem resolve_withContents (h : t.at? location = some (.file old)) (p : Path) :
    (t.withContents location content).resolve p =
      (t.resolve p).map fun found => (found.1, replaced location content found.1 found.2) := by
  have hstart : (t.withContents location content).start p = t.start p := rfl
  rw [resolve, resolve, hstart, walk_withContents h]
  by_cases hp : p.text = ""
  · rw [if_pos hp, if_pos hp]
    rfl
  · rw [if_neg hp, if_neg hp]
    cases t.walk (t.start p) p.segments with
    | error e => rfl
    | ok l =>
      simp only [at?_withContents h]
      cases t.at? l <;> rfl

theorem pathExists_withContents (h : t.at? location = some (.file old)) (p : Path) :
    (t.withContents location content).pathExists p = t.pathExists p := by
  rw [pathExists, resolve_withContents h, pathExists]
  cases t.resolve p <;> rfl

theorem resolve_withContents_of_not (h : t.at? location = some (.file old))
    (hp : t.leadsTo p location = false) :
    (t.withContents location content).resolve p = t.resolve p := by
  rw [resolve_withContents h]
  cases hfound : t.resolve p with
  | error e => rfl
  | ok found =>
    obtain ⟨l, n⟩ := found
    have hne : l ≠ location := by
      rintro rfl
      obtain rfl : .file old = n := Option.some.inj (h.symm.trans (at?_of_resolve hfound))
      simp [leadsTo, hfound] at hp
    show Except.ok (l, replaced location content l n) = _
    rw [replaced, if_neg hne]

/-- Nothing but the file itself reads differently. -/
theorem readText_withContents_of_not (h : t.at? location = some (.file old))
    (hp : t.leadsTo p location = false) :
    (t.withContents location content).readText p = t.readText p := by
  rw [readText, resolve_withContents_of_not h hp, readText]

end FileTree

end CapabilityGateway
