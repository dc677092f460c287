import CapabilityGateway.Proofs.Settings.Layers

/-!
# The algebra of merging

A section is not there, or it is there without its field, or with it. Merging replaces a section
when the other settings set its field and leaves it alone otherwise, so per section it is a choice:
what the other settings set, or else the section as it was. Everything about merging is a law of
such choices, and it holds of the settings themselves and not only of what they say.

* `GatewaySettings.console_merge`, `network_merge`, `audit_merge`: merging as a choice.
* `GatewaySettings.view_mergeAll`: a choice made many times is the last one that is made.
* `GatewaySettings.merge_laws`: the laws of merging.
-/

namespace CapabilityGateway

namespace GatewaySettings

/-! ## One merge -/

theorem console_merge (g other : GatewaySettings) :
    (g.merge other).console = (other.modeText?.map fun mode => ⟨some mode⟩).or g.console := by
  rw [merge]
  cases other.modeText? <;> rfl

theorem network_merge (g other : GatewaySettings) :
    (g.merge other).network = (other.network?.map fun b => ⟨some b⟩).or g.network := by
  rw [merge]
  cases other.network? <;> rfl

theorem audit_merge (g other : GatewaySettings) :
    (g.merge other).audit = (other.audit?.map fun b => ⟨some b⟩).or g.audit := by
  rw [merge]
  cases other.audit? <;> rfl

theorem eq_of_sections {g h : GatewaySettings} (hconsole : g.console = h.console)
    (hnetwork : g.network = h.network) (haudit : g.audit = h.audit) : g = h := by
  cases g
  cases h
  cases hconsole
  cases hnetwork
  cases haudit
  rfl

/-- Choosing between what two settings set comes to the same as choosing twice. -/
theorem map_or_or {α σ : Type} (build : α → σ) (last first : Option α) (own : Option σ) :
    ((last.or first).map build).or own = (last.map build).or ((first.map build).or own) := by
  rw [Option.map_or, Option.or_assoc]

theorem merge_assoc (a b c : GatewaySettings) : (a.merge b).merge c = a.merge (b.merge c) := by
  refine eq_of_sections ?_ ?_ ?_
  · rw [console_merge, console_merge, console_merge, modeText?_merge, map_or_or]
  · rw [network_merge, network_merge, network_merge, network?_merge, map_or_or]
  · rw [audit_merge, audit_merge, audit_merge, audit?_merge, map_or_or]

theorem merge_empty (a : GatewaySettings) : a.merge empty = a := rfl

/-- A section that sets its field is what it sets. -/
theorem merge_self (a : GatewaySettings) : a.merge a = a := by
  obtain ⟨console, network, audit⟩ := a
  refine eq_of_sections ?_ ?_ ?_
  · rw [console_merge]
    rcases console with - | ⟨_ | mode⟩ <;> rfl
  · rw [network_merge]
    rcases network with - | ⟨_ | b⟩ <;> rfl
  · rw [audit_merge]
    rcases audit with - | ⟨_ | b⟩ <;> rfl

/-- The settings without the sections that leave their field unset. -/
def withoutEmpty (g : GatewaySettings) : GatewaySettings where
  console := g.modeText?.map fun mode => ⟨some mode⟩
  network := g.network?.map fun b => ⟨some b⟩
  audit := g.audit?.map fun b => ⟨some b⟩

theorem merge_withoutEmpty (g other : GatewaySettings) :
    g.merge other.withoutEmpty = g.merge other := by
  have hmode : other.withoutEmpty.modeText? = other.modeText? := by
    rw [modeText?, withoutEmpty]
    cases other.modeText? <;> rfl
  have hnetwork : other.withoutEmpty.network? = other.network? := by
    rw [network?, withoutEmpty]
    cases other.network? <;> rfl
  have haudit : other.withoutEmpty.audit? = other.audit? := by
    rw [audit?, withoutEmpty]
    cases other.audit? <;> rfl
  rw [merge, merge, hmode, hnetwork, haudit]

/-! ## Many merges -/

/-- The settings after some others are merged into them one after another. -/
def mergeAll (g : GatewaySettings) (others : List GatewaySettings) : GatewaySettings :=
  others.foldl merge g

/-- What the last settings say that say anything. -/
def lastSaid {α : Type} (said : GatewaySettings → Option α) (gs : List GatewaySettings) :
    Option α :=
  gs.reverse.findSome? said

theorem lastSaid_cons {α : Type} (said : GatewaySettings → Option α) (g : GatewaySettings)
    (gs : List GatewaySettings) : lastSaid said (g :: gs) = (lastSaid said gs).or (said g) := by
  rw [lastSaid, List.reverse_cons, List.findSome?_append, List.findSome?_singleton]
  rfl

theorem isSome_lastSaid_iff {α : Type} {said : GatewaySettings → Option α}
    {gs : List GatewaySettings} :
    (lastSaid said gs).isSome ↔ ∃ g ∈ gs, (said g).isSome := by
  simp [lastSaid, List.findSome?_isSome_iff]

/-- Whatever one merge chooses, many merges choose the last of. -/
theorem view_mergeAll {α : Type} {view said : GatewaySettings → Option α}
    (hmerge : ∀ g other, view (g.merge other) = (said other).or (view g)) (g : GatewaySettings)
    (others : List GatewaySettings) :
    view (g.mergeAll others) = (lastSaid said others).or (view g) := by
  induction others generalizing g with
  | nil => rfl
  | cons other rest ih =>
    have hfirst : view ((g.merge other).mergeAll rest) =
        (lastSaid said rest).or (view (g.merge other)) := ih (g.merge other)
    rw [lastSaid_cons, Option.or_assoc, ← hmerge]
    exact hfirst

theorem isSome_view_mergeAll {α β : Type} {view : GatewaySettings → Option β}
    {said : GatewaySettings → Option α} {build : α → β}
    (hmerge : ∀ g other, view (g.merge other) = ((said other).map build).or (view g))
    (g : GatewaySettings) (others : List GatewaySettings) :
    (view (g.mergeAll others)).isSome ↔ (view g).isSome ∨ ∃ c ∈ others, (said c).isSome := by
  have hview : view (g.mergeAll others) =
      (lastSaid (fun c => (said c).map build) others).or (view g) := view_mergeAll hmerge g others
  rw [hview, Option.isSome_or, Bool.or_eq_true, isSome_lastSaid_iff, or_comm]
  simp only [Option.isSome_map]

/-- Merging is associative, settings that say nothing are a right identity, and merging the same
settings again changes nothing. Empty sections do not count in what is merged. Of some settings that
are merged one after another, each field is what the last one says that sets it, or else what it was
before, and a section is there if it was there before or one of them sets its field. -/
theorem merge_laws :
    (∀ a b c : GatewaySettings, (a.merge b).merge c = a.merge (b.merge c)) ∧
    (∀ a : GatewaySettings, a.merge empty = a) ∧
    (∀ a : GatewaySettings, a.merge a = a) ∧
    (∀ a b : GatewaySettings, (a.merge b).merge b = a.merge b) ∧
    (∀ a b : GatewaySettings, a.merge b.withoutEmpty = a.merge b) ∧
    ∀ (g : GatewaySettings) (others : List GatewaySettings),
      let merged := g.mergeAll others
      (merged.modeText? = (lastSaid modeText? others).or g.modeText? ∧
        merged.network? = (lastSaid network? others).or g.network? ∧
        merged.audit? = (lastSaid audit? others).or g.audit?) ∧
      (merged.console.isSome ↔ g.console.isSome ∨ ∃ c ∈ others, c.modeText?.isSome) ∧
      (merged.network.isSome ↔ g.network.isSome ∨ ∃ c ∈ others, c.network?.isSome) ∧
      (merged.audit.isSome ↔ g.audit.isSome ∨ ∃ c ∈ others, c.audit?.isSome) := by
  refine ⟨merge_assoc, merge_empty, merge_self, fun a b => ?_, merge_withoutEmpty,
    fun g others => ⟨⟨?_, ?_, ?_⟩, ?_, ?_, ?_⟩⟩
  · rw [merge_assoc, merge_self]
  · exact view_mergeAll modeText?_merge g others
  · exact view_mergeAll network?_merge g others
  · exact view_mergeAll audit?_merge g others
  · exact isSome_view_mergeAll console_merge g others
  · exact isSome_view_mergeAll network_merge g others
  · exact isSome_view_mergeAll audit_merge g others

/-- The empty console section stays until a mode is set, and the one that is merged last neither
erases the mode nor adds an audit section. -/
example :
    (mergeAll ⟨some ⟨none⟩, none, none⟩
      [⟨none, some ⟨some true⟩, none⟩, ⟨some ⟨some "loud"⟩, some ⟨some false⟩, none⟩,
        ⟨some ⟨none⟩, some ⟨none⟩, some ⟨none⟩⟩]) =
      ⟨some ⟨some "loud"⟩, some ⟨some false⟩, none⟩ := rfl

end GatewaySettings

end CapabilityGateway
