import CapabilityGateway.Proofs.Installation.Reinstallation
import Mathlib.Data.List.Nodup

/-!
# The audit trail of installations

Everything that is ever installed into one namespace reports to the same audit logger. Then the log
says exactly what happened: each capability is recorded once, when it was put there, and each
collision is recorded.

That no name is recorded twice is a matter of the whole history. Once a name is recorded it is
fixed, and nothing that happens to a namespace can undo that, so a later installation of the name
either finds it present, which is not recorded, or fails.

* `Change.told`: what one change has to tell.
* `Change.recorded_perform`: what it does tell.
* `not_mem_trail_of_fixed`: nothing is ever recorded of a name that is fixed already.
* `Installation.trail_exact`: the log after any history of a new namespace.
-/

namespace CapabilityGateway

namespace Namespace

/-- The binding is there already, fixed and hidden, with a value that is the same. -/
def fixes (g : Namespace) (b : String × Value) : Bool :=
  (g.property? b.1).any (·.identical (.fixedHidden b.2))

/-- A change of a namespace in a world, where installations report to a logger. -/
def Change.perform (logger : AuditLogger) (s : Namespace × World) : Change → Namespace × World
  | .edit e => ((e.perform s.1).2, s.2)
  | .install bindings =>
    let i := Installation.run s.1 bindings
    (i.left, i.announce logger s.2)

def performAll (logger : AuditLogger) (changes : List Change) (s : Namespace × World) :
    Namespace × World :=
  changes.foldl (Change.perform logger) s

/-- What a change of the namespace has to tell. An installation that succeeds tells of the names
that were not there before, a collision tells of itself, and nothing else is told. -/
def Change.told (g : Namespace) : Change → List AuditEvent
  | .edit _ => []
  | .install bindings =>
    match (Installation.run g bindings).result with
    | .ok () => (Dictionary.names (bindings.filter (!g.fixes ·))).map .capabilityInstalled
    | .error (.collision name) => [.capabilityCollision name]
    | .error _ => []

/-- What some changes have to tell one after another. -/
def trail (g : Namespace) : List Change → List AuditEvent
  | [] => []
  | c :: rest => c.told g ++ trail (c.apply g) rest

/-- The result of a change that is an installation. -/
def Change.result? (g : Namespace) : Change → Option (Except CapabilityError Unit)
  | .edit _ => none
  | .install bindings => some (Installation.run g bindings).result

/-- The results of the installations among some changes, in order. -/
def results (g : Namespace) : List Change → List (Except CapabilityError Unit)
  | [] => []
  | c :: rest => (c.result? g).toList ++ results (c.apply g) rest

end Namespace

/-- The name of a collision. -/
def AuditEvent.collision? : AuditEvent → Option String
  | .capabilityCollision name => some name
  | _ => none

/-- The name that an installation collided at. -/
def Installation.collision? : Except CapabilityError Unit → Option String
  | .error (.collision name) => some name
  | _ => none

namespace Namespace

variable {logger : AuditLogger} {g : Namespace} {name : String}

/-! ## One change -/

theorem Change.perform_fst (c : Change) (s : Namespace × World) :
    (c.perform logger s).1 = c.apply s.1 := by
  cases c <;> rfl

theorem events_planned (g : Namespace) (bindings : List (String × Value)) :
    (bindings.map fun b => (Installation.Planned.ofBinding g b).notice).filterMap
        Installation.Notice.event? =
      (Dictionary.names (bindings.filter (!g.fixes ·))).map .capabilityInstalled := by
  induction bindings with
  | nil => rfl
  | cons b rest ih =>
    have hpresent : (Installation.Planned.ofBinding g b).present = g.fixes b := rfl
    have hname : (Installation.Planned.ofBinding g b).name = b.1 := rfl
    rw [List.map_cons, Installation.Planned.notice, hpresent, hname]
    cases hfixes : g.fixes b with
    | true =>
      rw [List.filter_cons_of_neg (by simp [hfixes])]
      exact ih
    | false =>
      rw [List.filter_cons_of_pos (by simp [hfixes])]
      exact congrArg (AuditEvent.capabilityInstalled b.1 :: ·) ih

theorem events_run (g : Namespace) (bindings : List (String × Value)) :
    (Installation.run g bindings).notices.filterMap Installation.Notice.event? =
      Change.told g (.install bindings) := by
  by_cases h : Installation.Installable g bindings
  · have hrun := Installation.run_of_installable h
    rw [Change.told, hrun]
    exact events_planned g bindings
  · obtain ⟨e, hrun⟩ := Installation.run_of_not_installable h
    rw [Change.told, hrun]
    cases e <;> rfl

/-- A change tells the logger what it has to tell, and tells no other logger anything. -/
theorem Change.recorded_perform (c : Change) (s : Namespace × World) :
    s.2.Recorded (c.perform logger s).2 logger (c.told s.1) := by
  cases c with
  | edit e => exact .refl s.2 logger
  | install bindings =>
    rw [← events_run]
    exact Installation.recorded_announce _ logger s.2

/-- What an installation tells of, it has fixed. Before that the name was not fixed. -/
theorem Change.of_mem_told {c : Change} (h : .capabilityInstalled name ∈ c.told g) :
    ∃ bindings v, c = .install bindings ∧ (name, v) ∈ bindings ∧
      (∀ p, g.property? name = some p → p.attributes.configurable = true) ∧
      (c.apply g).property? name = some (.fixedHidden v) := by
  cases c with
  | edit e => cases h
  | install bindings =>
    by_cases hi : Installation.Installable g bindings
    · have hrun := Installation.run_of_installable hi
      rw [told, hrun] at h
      obtain ⟨n, hn, heq⟩ := List.mem_map.mp h
      cases heq
      obtain ⟨b, hb, rfl⟩ := List.mem_map.mp hn
      obtain ⟨hmem, hnot⟩ := List.mem_filter.mp hb
      have hfixed := property?_fixAll_of_mem hi.distinct hmem g
      refine ⟨bindings, b.2, rfl, hmem, fun p hp => ?_, ?_⟩
      · rcases mayDefine_iff.mp (hi.free b hmem) p hp with hc | hidentical
        · exact hc
        · simp [fixes, hp, hidentical] at hnot
      · rw [apply, hrun]
        exact hfixed
    · obtain ⟨e, hrun⟩ := Installation.run_of_not_installable hi
      rw [told, hrun] at h
      cases e <;> simp at h

theorem Change.count_told_le (c : Change) (g : Namespace) (name : String) :
    (c.told g).count (.capabilityInstalled name) ≤ 1 := by
  cases c with
  | edit e => exact Nat.zero_le 1
  | install bindings =>
    by_cases hi : Installation.Installable g bindings
    · have hrun := Installation.run_of_installable hi
      have hnodup : (Dictionary.names (bindings.filter (!g.fixes ·))).Nodup :=
        hi.distinct.sublist (List.filter_sublist.map Prod.fst)
      have hinjective : Function.Injective AuditEvent.capabilityInstalled :=
        fun _ _ h => AuditEvent.capabilityInstalled.inj h
      rw [told, hrun]
      exact List.nodup_iff_count_le_one.mp (List.Nodup.map hinjective hnodup) _
    · obtain ⟨e, hrun⟩ := Installation.run_of_not_installable hi
      rw [told, hrun]
      cases e <;> simp

theorem collision?_installed (names : List String) :
    (names.map AuditEvent.capabilityInstalled).filterMap AuditEvent.collision? = [] := by
  rw [List.filterMap_map, List.filterMap_eq_nil_iff]
  intro name _
  rfl

theorem Change.collision?_told (c : Change) (g : Namespace) :
    (c.told g).filterMap AuditEvent.collision? =
      (c.result? g).toList.filterMap Installation.collision? := by
  cases c with
  | edit e => rfl
  | install bindings =>
    rw [told, result?]
    cases (Installation.run g bindings).result with
    | ok u => exact collision?_installed _
    | error e => cases e <;> rfl

/-! ## Histories -/

/-- What happens to the namespace does not depend on the world. -/
theorem performAll_fst (changes : List Change) (s : Namespace × World) :
    (performAll logger changes s).1 = s.1.after changes := by
  induction changes generalizing s with
  | nil => rfl
  | cons c rest ih =>
    have hrest := ih (c.perform logger s)
    rw [c.perform_fst] at hrest
    exact hrest

theorem recorded_performAll (changes : List Change) (s : Namespace × World) :
    s.2.Recorded (performAll logger changes s).2 logger (trail s.1 changes) := by
  induction changes generalizing s with
  | nil => exact .refl s.2 logger
  | cons c rest ih =>
    have hrest := ih (c.perform logger s)
    rw [c.perform_fst] at hrest
    exact (c.recorded_perform s).trans hrest

/-- Nothing is ever recorded of a name that is fixed already. -/
theorem not_mem_trail_of_fixed {p : Property} (hp : g.property? name = some p)
    (hfixed : p.attributes.configurable = false) (changes : List Change) :
    AuditEvent.capabilityInstalled name ∉ trail g changes := by
  induction changes generalizing g p with
  | nil => exact List.not_mem_nil
  | cons c rest ih =>
    intro h
    rcases List.mem_append.mp h with h | h
    · obtain ⟨-, -, -, -, hfree, -⟩ := Change.of_mem_told h
      rw [hfree p hp] at hfixed
      cases hfixed
    · obtain ⟨q, hq, hpersists⟩ := c.fixedPersist g name p hp hfixed
      exact ih hq (hpersists.attributes ▸ hfixed) h

/-- No name is recorded twice. -/
theorem count_trail_le (g : Namespace) (changes : List Change) (name : String) :
    (trail g changes).count (.capabilityInstalled name) ≤ 1 := by
  induction changes generalizing g with
  | nil => exact Nat.zero_le 1
  | cons c rest ih =>
    rw [trail, List.count_append]
    by_cases h : .capabilityInstalled name ∈ c.told g
    · obtain ⟨_, _, -, -, -, hfixed⟩ := Change.of_mem_told h
      have hrest := List.count_eq_zero.mpr (not_mem_trail_of_fixed hfixed rfl rest)
      have htold := c.count_told_le g name
      omega
    · have htold := List.count_eq_zero.mpr h
      have hrest := ih (c.apply g)
      omega

theorem collision?_trail (g : Namespace) (changes : List Change) :
    (trail g changes).filterMap AuditEvent.collision? =
      (results g changes).filterMap Installation.collision? := by
  induction changes generalizing g with
  | nil => rfl
  | cons c rest ih =>
    rw [trail, results, List.filterMap_append, List.filterMap_append, ih, c.collision?_told]

theorem after_append (g : Namespace) (changes later : List Change) :
    g.after (changes ++ later) = (g.after changes).after later :=
  List.foldl_append

theorem trail_append (g : Namespace) (changes later : List Change) :
    trail g (changes ++ later) = trail g changes ++ trail (g.after changes) later := by
  induction changes generalizing g with
  | nil => rfl
  | cons c rest ih =>
    rw [List.cons_append, trail, trail, ih, List.append_assoc, after_cons]

/-- What is recorded was told by one of the changes. -/
theorem mem_trail {e : AuditEvent} {changes : List Change} (h : e ∈ trail g changes) :
    ∃ before c later, changes = before ++ c :: later ∧ e ∈ c.told (g.after before) := by
  induction changes generalizing g with
  | nil => cases h
  | cons c rest ih =>
    rcases List.mem_append.mp h with h | h
    · exact ⟨[], c, rest, rfl, h⟩
    · obtain ⟨before, d, later, rfl, hd⟩ := ih h
      exact ⟨c :: before, d, later, rfl, hd⟩

/-- The change that tells of a name is the only one that does, and the name stays fixed to the value
that it brought. -/
theorem installation_of_mem_trail {changes : List Change}
    (h : .capabilityInstalled name ∈ trail g changes) :
    ∃ before bindings later v, changes = before ++ .install bindings :: later ∧
      .capabilityInstalled name ∉ trail g before ∧
      .capabilityInstalled name ∈ Change.told (g.after before) (.install bindings) ∧
      (name, v) ∈ bindings ∧
      ∃ p, (g.after changes).property? name = some p ∧ p.identical (.fixedHidden v) = true := by
  obtain ⟨before, c, later, rfl, htold⟩ := mem_trail h
  obtain ⟨bindings, v, rfl, hmem, -, hfixed⟩ := Change.of_mem_told htold
  refine ⟨before, bindings, later, v, rfl, fun hbefore => ?_, htold, hmem, ?_⟩
  · have honce := count_trail_le g (before ++ .install bindings :: later) name
    have hfirst := List.count_pos_iff.mpr hbefore
    have hsecond := List.count_pos_iff.mpr htold
    rw [trail_append, trail, List.count_append, List.count_append] at honce
    omega
  · obtain ⟨p, hp, hpersists⟩ := fixedPersist_after _ later name _ hfixed rfl
    rw [after_append, after_cons]
    exact ⟨p, hp, Property.identical_iff.mpr ⟨hpersists.attributes, hpersists.value rfl⟩⟩

end Namespace

namespace Installation

open Namespace

/-- A new namespace after some changes, with a new logger. -/
def played (w₀ : World) (changes : List Change) : Namespace × World :=
  performAll w₀.newLog.1 changes (.empty, w₀.newLog.2)

/-- What the new logger has heard. -/
def log (w₀ : World) (changes : List Change) : List AuditEvent :=
  (played w₀ changes).2.heard w₀.newLog.1

theorem played_eq_after (w₀ : World) (changes : List Change) :
    (played w₀ changes).1 = Namespace.empty.after changes :=
  performAll_fst changes _

theorem log_eq_trail (w₀ : World) (changes : List Change) :
    log w₀ changes = trail .empty changes := by
  have hrecorded : w₀.newLog.2.Recorded _ w₀.newLog.1 (trail .empty changes) :=
    recorded_performAll changes (.empty, w₀.newLog.2)
  have hlog := hrecorded w₀.newLog.1 w₀.newLog_ne_silent
  rwa [w₀.heard_newLog, if_pos rfl, List.nil_append] at hlog

/-- The audit trail of a new namespace. It records each name at most once; a name that it records is
still fixed to the value of the installation that recorded it; every change adds what it has to
tell; and the collisions that it records are those of the installations, in order. -/
theorem trail_exact (w₀ : World) (changes : List Change) :
    (∀ name, (log w₀ changes).count (.capabilityInstalled name) ≤ 1) ∧
    (∀ name, .capabilityInstalled name ∈ log w₀ changes →
      ∃ before bindings later v, changes = before ++ .install bindings :: later ∧
        .capabilityInstalled name ∉ log w₀ before ∧
        .capabilityInstalled name ∈ log w₀ (before ++ [.install bindings]) ∧
        (name, v) ∈ bindings ∧
        ∃ p, (played w₀ changes).1.property? name = some p ∧
          p.identical (.fixedHidden v) = true) ∧
    (∀ before c later, changes = before ++ c :: later →
      log w₀ (before ++ [c]) = log w₀ before ++
        match c with
        | .edit _ => []
        | .install bindings =>
          let g := (played w₀ before).1
          match (run g bindings).result with
          | .ok () => (Dictionary.names (bindings.filter (!g.fixes ·))).map .capabilityInstalled
          | .error (.collision name) => [.capabilityCollision name]
          | .error _ => []) ∧
    (log w₀ changes).filterMap AuditEvent.collision? =
      (results .empty changes).filterMap collision? := by
  simp only [log_eq_trail, played_eq_after]
  refine ⟨fun name => count_trail_le _ changes name, fun name hname => ?_, ?_,
    collision?_trail _ changes⟩
  · obtain ⟨before, bindings, later, v, hchanges, hnew, htold, hmem, hbound⟩ :=
      installation_of_mem_trail hname
    refine ⟨before, bindings, later, v, hchanges, hnew, ?_, hmem, hbound⟩
    rw [trail_append, trail]
    exact List.mem_append_right _ (List.mem_append_left _ htold)
  · intro before c later _
    rw [trail_append, trail, trail, List.append_nil]
    cases c <;> rfl

/-- The second installation finds the first name present and adds one more, the third and the fourth
fail, and the guest cannot make room for any of them. -/
theorem trail_exact_attacked :
    let changes := [Change.install [("net", .null)], .edit (.delete "net"),
      .install [("tls", .bool true), ("net", .null)], .install [("net", .undefined)],
      .install [("no name", .null)]]
    let w₀ := World.initial ⟨0, 0⟩ fun _ => HostCall.plainAnswer
    log w₀ changes =
        [.capabilityInstalled "net", .capabilityInstalled "tls", .capabilityCollision "net"] ∧
      (log w₀ changes).count (.capabilityInstalled "net") = 1 ∧
      ∃ p, (played w₀ changes).1.property? "net" = some p ∧ p.attributes = .fixedHidden := by
  intro changes w₀
  have hlog : log w₀ changes =
      [.capabilityInstalled "net", .capabilityInstalled "tls", .capabilityCollision "net"] := by
    decide +kernel
  obtain ⟨honce, hbound, -, -⟩ := trail_exact w₀ changes
  have hmem : .capabilityInstalled "net" ∈ log w₀ changes := by
    rw [hlog]
    exact List.mem_cons_self
  have hpos := List.count_pos_iff.mpr hmem
  have hle := honce "net"
  obtain ⟨-, -, -, v, -, -, -, -, p, hp, hidentical⟩ := hbound "net" hmem
  exact ⟨hlog, by omega, p, hp, (Property.identical_iff.mp hidentical).1⟩

end Installation

end CapabilityGateway
