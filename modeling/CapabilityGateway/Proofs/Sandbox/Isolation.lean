import CapabilityGateway.Proofs.Sandbox.Assembly
import CapabilityGateway.Proofs.Sandbox.Guest
import Mathlib.Tactic.SplitIfs

/-!
# Fully sandboxed contexts and the host

A fully sandboxed context has one capability, a console whose members discard what they are given.
So a guest cannot find out anything about the host: two such contexts answer alike whatever either
host offers, up to the identities of the objects that were made for them. Nor does the host find out
anything about the guest.

* `World.Unnoticed`: the host has noticed nothing between two worlds.
* `GuestStep.perform_discarding`: one step, in two worlds that need have nothing in common.
* `GuestStep.run_discarding`: the same for all the steps of a guest.
* `Context.sandboxed_lives_agree`: the whole lives of two fully sandboxed contexts.
-/

namespace CapabilityGateway

/-! ## The host -/

/-- The host has noticed nothing: its tables, transports and logs are as they were, it has received
no call, and no audit event has gone to the trace. -/
structure World.Unnoticed (w w' : World) : Prop where
  bridges : w'.bridges = w.bridges
  transports : w'.transports = w.transports
  logs : w'.logs = w.logs
  calls : w'.calls = w.calls
  audited : w'.heard .tracing = w.heard .tracing

namespace World.Unnoticed

theorem trans {w₁ w₂ w₃ : World} (h₁ : w₁.Unnoticed w₂) (h₂ : w₂.Unnoticed w₃) :
    w₁.Unnoticed w₃ where
  bridges := h₂.bridges.trans h₁.bridges
  transports := h₂.transports.trans h₁.transports
  logs := h₂.logs.trans h₁.logs
  calls := h₂.calls.trans h₁.calls
  audited := h₂.audited.trans h₁.audited

theorem emit (w : World) {event : TraceEvent} (h : event.audited? = none) :
    w.Unnoticed (w.emit event) :=
  ⟨rfl, rfl, rfl, rfl, by simp [heard, World.emit, h]⟩

theorem next (w : World) (i : Identity) : w.Unnoticed { w with next := i } :=
  ⟨rfl, rfl, rfl, rfl, rfl⟩

/-- A silent logger keeps what an installation has to tell from the host. -/
theorem announce (i : Installation) (w : World) : w.Unnoticed (i.announce .silent w) := by
  unfold Installation.announce
  induction i.notices generalizing w with
  | nil => exact ⟨rfl, rfl, rfl, rfl, rfl⟩
  | cons n rest ih =>
    rw [List.foldl_cons]
    refine trans ?_ (ih _)
    cases n with
    | installed name => exact emit w rfl
    | present name => exact emit w rfl
    | collided name => exact emit w rfl

end World.Unnoticed

/-! ## Consoles that discard -/

/-- Every member of the value is a function that writes to a discarding sink. -/
def Value.Discards (console : Value) : Prop :=
  ∀ method v, console.member? method = some v →
    ∃ i logger, v = .function (.mk i (.write ⟨.discard, logger⟩))

/-- The console of a fully sandboxed context, as it is made in a world. -/
def Console.discarding (w : World) : Value :=
  World.surfaceFrom w.next (members ⟨.discard, .silent⟩)

theorem Console.discards_discarding (w : World) : (discarding w).Discards := by
  intro method v hv
  obtain ⟨j, b, rfl, hb⟩ := World.mem_membersFrom (Dictionary.mem_of_get? hv)
  obtain ⟨m, -, hm⟩ := List.mem_map.mp hb
  cases hm
  exact ⟨j, .silent, rfl⟩

/-- A member of a discarding console answers undefined. It makes no call of its own, so the guest's
call is the only one that is open, and it leaves the world as it was. -/
theorem Value.Discards.call {console : Value} (h : console.Discards) {method : String} {v : Value}
    (hv : console.member? method = some v) (depth : Nat) (arguments : List Value) (w : World) :
    Invoker.call (Callable.invoke (depth + 1)) v arguments w = some (.ok .undefined, w) := by
  obtain ⟨i, logger, rfl⟩ := h method v hv
  rfl

theorem Value.Discards.rename {console : Value} (h : console.Discards) (f : Identity → Identity) :
    (console.rename f).Discards := by
  intro method v hv
  rw [Value.member?_rename, Option.map_eq_some_iff] at hv
  obtain ⟨u, hu, rfl⟩ := hv
  obtain ⟨i, logger, rfl⟩ := h method u hu
  exact ⟨f i, logger.rename f, rfl⟩

/-! ## Guests of a discarding console -/

namespace GuestStep

variable {f : Identity → Identity} {console : Value}

/-- Neither the world nor the depth that is left has a part in the answer to a step, and no world
changes. Renaming the step and all it refers to renames the answer. -/
theorem perform_discarding (hf : Function.Injective f) (hc : console.Discards) (s : GuestStep)
    (g : Namespace) :
    ∃ a g', ∀ (depth : Nat) (w₁ w₂ : World),
      s.perform (depth + 1) console g w₁ = some (a, g', w₁) ∧
      (s.rename f).perform (depth + 1) (console.rename f) (g.rename f) w₂ =
        some (a.rename f, g'.rename f, w₂) := by
  cases s with
  | edit e =>
    refine ⟨_, _, fun depth w₁ w₂ => ⟨rfl, ?_⟩⟩
    rw [rename, perform, Namespace.Edit.perform_rename hf, Answer.ofEdit_rename]
  | resolve name =>
    refine ⟨_, _, fun depth w₁ w₂ => ⟨rfl, ?_⟩⟩
    rw [rename, perform, Namespace.resolve_rename, Answer.ofResult_rename]
  | keys =>
    refine ⟨_, _, fun depth w₁ w₂ => ⟨rfl, ?_⟩⟩
    rw [rename, perform, Namespace.keys_rename]
    rfl
  | names =>
    refine ⟨_, _, fun depth w₁ w₂ => ⟨rfl, ?_⟩⟩
    rw [rename, perform, Namespace.names_rename]
    rfl
  | call method arguments =>
    simp only [rename, perform]
    cases hv : console.member? method with
    | none =>
      refine ⟨.absent, g, fun depth w₁ w₂ => ⟨rfl, ?_⟩⟩
      rw [Value.member?_rename, hv]
      rfl
    | some v =>
      have hv' : (console.rename f).member? method = some (v.rename f) := by
        rw [Value.member?_rename, hv]
        rfl
      refine ⟨.value .undefined, g, fun depth w₁ w₂ => ⟨?_, ?_⟩⟩
      · simp only [hc.call hv]
        rfl
      · simp only [hv', (hc.rename f).call hv']
        rfl

/-- The same for all the steps of a guest. -/
theorem run_discarding (hf : Function.Injective f) (hc : console.Discards)
    (steps : List GuestStep) (g : Namespace) :
    ∃ answers g', ∀ (depth : Nat) (w₁ w₂ : World),
      run (depth + 1) console steps g w₁ = some (answers, g', w₁) ∧
      run (depth + 1) (console.rename f) (steps.map (rename f)) (g.rename f) w₂ =
        some (answers.map (Answer.rename f), g'.rename f, w₂) := by
  induction steps generalizing g with
  | nil => exact ⟨[], g, fun depth w₁ w₂ => ⟨rfl, rfl⟩⟩
  | cons s rest ih =>
    obtain ⟨a, g', hhead⟩ := perform_discarding hf hc s g
    obtain ⟨answers, g'', hrest⟩ := ih g'
    refine ⟨a :: answers, g'', fun depth w₁ w₂ => ?_⟩
    obtain ⟨hhead₁, hhead₂⟩ := hhead depth w₁ w₂
    obtain ⟨hrest₁, hrest₂⟩ := hrest depth w₁ w₂
    constructor
    · simp only [run, hhead₁, hrest₁]
    · simp only [List.map_cons, run, hhead₂, hrest₂]

end GuestStep

/-! ## Corresponding worlds -/

/-- The renaming takes the identities that the world `w₁` gives out to the objects of a new console
to those that `w₂` gives out to them. Of the other identities it only tells no two alike. -/
structure World.Corresponds (w₁ w₂ : World) (f : Identity → Identity) : Prop where
  injective : Function.Injective f
  console : ∀ k ≤ Console.methods.length, f (w₁.next + k) = w₂.next + k

namespace World

theorem rename_membersFrom {f : Identity → Identity} {i j : Nat}
    {members : List (String × Behaviour)} (h : ∀ k < members.length, f (i + k) = j + k) :
    Value.renameProperties f (membersFrom i members) =
      membersFrom j (members.map fun m => (m.1, m.2.rename f)) := by
  induction members generalizing i j with
  | nil => rfl
  | cons m rest ih =>
    have hhead : f i = j := h 0 (by simp)
    have hrest : ∀ k < rest.length, f (i + 1 + k) = j + 1 + k := by
      intro k hk
      have hnext := h (k + 1) (by simpa using hk)
      rwa [Nat.add_right_comm i, Nat.add_right_comm j]
    simp only [membersFrom, List.map_cons, Value.renameProperties, Value.rename, Callable.rename,
      hhead, ih hrest]

/-- The numbers from `m` to `m + c` can be moved to those from `n` to `n + c` without moving any
that is below both `m` and `n`. All others are moved out of the way. -/
theorem exists_moving (m n c : Nat) :
    ∃ f : Nat → Nat, Function.Injective f ∧ (∀ k ≤ c, f (m + k) = n + k) ∧
      ∀ i, i < m → i < n → f i = i := by
  refine ⟨fun i => if i < m ∧ i < n then i else if m ≤ i ∧ i ≤ m + c then i - m + n
    else i + m + n + c + 1, ?_, ?_, ?_⟩
  · intro i j hij
    simp only at hij
    split_ifs at hij <;> omega
  · intro k hk
    have hold : ¬ (m + k < m ∧ m + k < n) := by omega
    have hmoved : m ≤ m + k ∧ m + k ≤ m + c := by omega
    simp only [if_neg hold, if_pos hmoved]
    omega
  · intro i hi hj
    exact if_pos ⟨hi, hj⟩

/-- There is a renaming between any two worlds that leaves alone what is older than both. -/
theorem exists_corresponds (w₁ w₂ : World) :
    ∃ f, w₁.Corresponds w₂ f ∧ ∀ i : Nat, i < w₁.next → i < w₂.next → f i = i := by
  obtain ⟨f, hinjective, hconsole, hold⟩ := exists_moving w₁.next w₂.next Console.methods.length
  exact ⟨f, ⟨hinjective, hconsole⟩, hold⟩

theorem Corresponds.rename_discarding {w₁ w₂ : World} {f : Identity → Identity}
    (h : w₁.Corresponds w₂ f) :
    (Console.discarding w₁).rename f = Console.discarding w₂ := by
  have hlength : (Console.members ⟨.discard, .silent⟩).length = Console.methods.length := rfl
  have hmembers := @rename_membersFrom f w₁.next w₂.next (Console.members ⟨.discard, .silent⟩)
    fun k hk => h.console k (Nat.le_of_lt hk)
  have hobject : f (w₁.next + Console.methods.length) = w₂.next + Console.methods.length :=
    h.console _ (Nat.le_refl _)
  simp only [Console.discarding, surfaceFrom, Value.rename, hmembers, hlength]
  rw [hobject]
  rfl

end World

/-! ## Fully sandboxed contexts -/

namespace Context

/-- The namespace of a fully sandboxed context that is made in a world. -/
def sandboxedGlobal (w : World) : Namespace :=
  Namespace.empty.write "console" (.fixedHidden (Console.discarding w))

theorem rename_sandboxedGlobal {w₁ w₂ : World} {f : Identity → Identity}
    (h : w₁.Corresponds w₂ f) : (sandboxedGlobal w₁).rename f = sandboxedGlobal w₂ := by
  have hrename := Namespace.write_rename (f := f) .empty "console"
    (.fixedHidden (Console.discarding w₁))
  unfold sandboxedGlobal
  rw [← hrename, ← h.rename_discarding]
  rfl

/-- The host's services have no part in the making of a fully sandboxed context. -/
theorem create_sandboxed (id : String) (host : HostServices) (w : World) :
    ∃ w', create id .empty .sandboxed host w =
        (.ok ⟨id, sandboxedGlobal w, ["console"], .silent⟩, w') ∧ w.Unnoticed w' := by
  have hconsole := Console.create_eq ⟨.discard, .silent⟩ w
  generalize hmade : Console.create ⟨.discard, .silent⟩ w = made at hconsole
  have hcreate : create id .empty .sandboxed host w =
      install id .empty ⟨made.1, none⟩ .silent made.2 := by
    rw [← hmade]
    rfl
  have hbindings : CapabilitySet.bindings ⟨made.1, none⟩ = [("console", Console.discarding w)] := by
    rw [hconsole]
    rfl
  have hname : CapabilityName.isValid "console" = true := by decide
  have hinstallable : Installation.Installable .empty (CapabilitySet.bindings ⟨made.1, none⟩) := by
    rw [hbindings]
    refine ⟨by simp, by simp [Dictionary.names], fun b hb => ?_, fun b hb => rfl⟩
    rw [List.mem_singleton.mp hb]
    exact hname
  have hunnoticed : w.Unnoticed made.2 := by
    rw [hconsole]
    exact (World.Unnoticed.emit w rfl).trans (.next _ _)
  rw [hcreate, install_of_installable hinstallable, hbindings]
  exact ⟨_, rfl, (hunnoticed.trans (.announce _ _)).trans (.emit _ rfl)⟩

theorem resolve_sandboxedGlobal (w : World) :
    (sandboxedGlobal w).resolve "console" = .ok (Console.discarding w) :=
  Namespace.resolve_of_property? (Namespace.property?_write_self _ _ _)

/-- The whole life of a fully sandboxed context, once its beginning and the guest's steps are
known. -/
theorem sandboxedLife_of_run {depth : Nat} {id : String} {host : HostServices}
    {steps : List GuestStep} {w w' : World} {answers : List Answer} {g : Namespace}
    (hcreate : create id .empty .sandboxed host w =
      (.ok ⟨id, sandboxedGlobal w, ["console"], .silent⟩, w'))
    (hrun : GuestStep.run depth (Console.discarding w) steps (sandboxedGlobal w) w' =
      some (answers, g, w')) :
    sandboxedLife depth id host steps w = some (answers, w'.emit (.contextDestroyed id)) := by
  simp only [sandboxedLife, hcreate, resolve_sandboxedGlobal, hrun]
  rfl

/-- Fully sandboxed contexts do not depend on their host. However the two hosts and the worlds
around them differ, the guest's steps are answered alike, up to the identities of the objects that
were made for the contexts, and neither host notices anything. There always is such a renaming of
identities, one that leaves alone the objects that are older than both contexts.

The depth makes no difference from one on. At depth one the guest's own call is the only one that
may be open, so no other callable is called, be it an entry of a bridge, a handler of a transport or
an argument. -/
theorem sandboxed_lives_agree (id₁ id₂ : String) (host₁ host₂ : HostServices) (w₁ w₂ : World) :
    (∃ f, w₁.Corresponds w₂ f ∧ ∀ i : Nat, i < w₁.next → i < w₂.next → f i = i) ∧
    ∀ f, w₁.Corresponds w₂ f → ∀ steps : List GuestStep, ∃ answers w₁' w₂',
      (∀ depth, sandboxedLife (depth + 1) id₁ host₁ steps w₁ = some (answers, w₁') ∧
        sandboxedLife (depth + 1) id₂ host₂ (steps.map (GuestStep.rename f)) w₂ =
          some (answers.map (Answer.rename f), w₂')) ∧
      w₁.Unnoticed w₁' ∧ w₂.Unnoticed w₂' := by
  refine ⟨w₁.exists_corresponds w₂, fun f hf steps => ?_⟩
  obtain ⟨u₁, hcreate₁, hmade₁⟩ := create_sandboxed id₁ host₁ w₁
  obtain ⟨u₂, hcreate₂, hmade₂⟩ := create_sandboxed id₂ host₂ w₂
  obtain ⟨answers, g, hrun⟩ := GuestStep.run_discarding hf.injective
    (Console.discards_discarding w₁) steps (sandboxedGlobal w₁)
  refine ⟨answers, u₁.emit (.contextDestroyed id₁), u₂.emit (.contextDestroyed id₂),
    fun depth => ?_, hmade₁.trans (.emit u₁ rfl), hmade₂.trans (.emit u₂ rfl)⟩
  obtain ⟨hrun₁, hrun₂⟩ := hrun depth u₁ u₂
  rw [hf.rename_discarding, rename_sandboxedGlobal hf] at hrun₂
  exact ⟨sandboxedLife_of_run hcreate₁ hrun₁, sandboxedLife_of_run hcreate₂ hrun₂⟩

/-- A host that offers everything and one that offers nothing. The guest tries to replace the
console and calls it with a function that would call the host's bridge. -/
theorem sandboxed_lives_agree_bridged :
    let w₁ := { World.initial ⟨0, 0⟩ fun _ => HostCall.plainAnswer with next := 3 }
    let w₂ := World.initial ⟨5, 0⟩ fun _ _ => .ok .null
    let host : HostServices := ⟨some 0, some 1, some (.keeping 2)⟩
    let steps : List GuestStep := [.keys, .edit (.set "console" .null),
      .call "log" [.function (.mk 2 (.callEntry 0 consoleKey))], .call "clear" []]
    let answers : List Answer :=
      [.names [], .fault (.readOnlyBinding "console"), .value .undefined, .absent]
    ∃ f, w₁.Corresponds w₂ f ∧ ∃ w₁' w₂',
      sandboxedLife 1 "a" host steps w₁ = some (answers, w₁') ∧
      sandboxedLife 1 "b" .nothing (steps.map (GuestStep.rename f)) w₂ = some (answers, w₂') ∧
      w₁'.calls = [] := by
  intro w₁ w₂ host steps answers
  obtain ⟨⟨f, hf, -⟩, hlives⟩ := sandboxed_lives_agree "a" "b" host .nothing w₁ w₂
  obtain ⟨given, w₁', w₂', hrun, hquiet, -⟩ := hlives f hf steps
  obtain ⟨h₁, h₂⟩ := hrun 0
  have hgiven : (sandboxedLife (0 + 1) "a" host steps w₁).map Prod.fst = some answers := rfl
  rw [h₁] at hgiven
  obtain rfl : given = answers := Option.some.inj hgiven
  exact ⟨f, hf, w₁', w₂', h₁, h₂, hquiet.calls⟩

end Context

end CapabilityGateway
