import CapabilityGateway.Proofs.Audit.Recording
import CapabilityGateway.Proofs.Installation.Plan

/-!
# Installations are exact or do nothing

An installation that fails leaves the namespace as it was and records no capability as installed.
One that succeeds fixes each of its names to the value that was asked for, leaves the properties of
all other names alone, keeps the names that were there in their places and adds the new ones behind
them in the order of the bindings. What was examined is what is written: when every binding passes
the examination, no write is refused.

* `Installation.run_error_or_exact`: all of this for every namespace and every list of bindings.
-/

namespace CapabilityGateway

namespace Installation

theorem installed_not_recorded_of_error (e : CapabilityError) (name : String) :
    AuditEvent.capabilityInstalled name ∉ (noticesOf e).filterMap Notice.event? := by
  cases e <;> simp [noticesOf, Notice.event?]

/-- No write of an examined plan is refused. -/
theorem write_of_plan {g : Namespace} {bs : List (String × Value)} {planned : List Planned}
    (h : plan g [] bs = .ok planned) : (write planned g).result = .ok () := by
  obtain ⟨hdistinct, hall, rfl⟩ := plan_eq_ok_iff.mp h
  rw [write_planned hdistinct g fun b hb => (hall b hb).2.2]

/-- An installation either fails, and then it changes nothing and reports nothing as installed, or
it succeeds, and then exactly the names of the bindings are fixed to their values. It never fails
after the examination. -/
theorem run_error_or_exact (g : Namespace) (bindings : List (String × Value))
    (logger : AuditLogger) (w : World) :
    ((∃ e, (run g bindings).result = .error e ∧ (run g bindings).left = g ∧
        ∃ events, w.Recorded ((run g bindings).announce logger w) logger events ∧
          ∀ name, AuditEvent.capabilityInstalled name ∉ events) ∨
      ((run g bindings).result = .ok () ∧
        (∀ b ∈ bindings, (run g bindings).left.property? b.1 = some (.fixedHidden b.2)) ∧
        (∀ name, name ∉ Dictionary.names bindings →
          (run g bindings).left.property? name = g.property? name) ∧
        (run g bindings).left.names =
          g.names ++ (Dictionary.names bindings).filter (· ∉ g.names))) ∧
    ∀ planned, plan g [] bindings = .ok planned → (write planned g).result = .ok () := by
  refine ⟨?_, fun planned h => write_of_plan h⟩
  by_cases h : Installable g bindings
  · right
    rw [run_of_installable h]
    refine ⟨rfl, fun b hb => ?_, fun name hname => ?_, ?_⟩
    · exact Namespace.property?_fixAll_of_mem h.distinct hb g
    · exact Namespace.property?_fixAll_of_not_mem hname g
    · exact Namespace.names_fixAll h.distinct g
  · left
    obtain ⟨e, he⟩ := run_of_not_installable h
    have hrecorded := recorded_announce (run g bindings) logger w
    rw [he] at hrecorded ⊢
    exact ⟨e, rfl, rfl, _, hrecorded, installed_not_recorded_of_error e⟩

/-- Three bindings whose names are new, replaceable, and fixed already to the same value. -/
theorem run_error_or_exact_mixed :
    let g := (Namespace.empty.write "net" (.fixedHidden .null)).write "console"
      ⟨.undefined, .ordinary⟩
    let bindings := [("tls", .bool true), ("console", .null), ("net", .null)]
    (run g bindings).result = .ok () ∧
      (run g bindings).left.property? "console" = some (.fixedHidden .null) ∧
      (run g bindings).left.names = ["net", "console", "tls"] ∧
      ∃ planned, plan g [] bindings = .ok planned ∧ (write planned g).result = .ok () := by
  intro g bindings
  have hnames : g.names ++ (Dictionary.names bindings).filter (· ∉ g.names) =
      ["net", "console", "tls"] := by decide
  obtain ⟨⟨e, he, -⟩ | ⟨hok, hbound, -, hkept⟩, hwrite⟩ :=
    run_error_or_exact g bindings .silent (.initial ⟨0, 0⟩ fun _ => HostCall.plainAnswer)
  · cases he
  · exact ⟨hok, hbound ("console", .null) (by simp [bindings]), hkept.trans hnames, _, rfl,
      hwrite _ rfl⟩

end Installation

end CapabilityGateway
