import CapabilityGateway.Proofs.Host.Machine
import CapabilityGateway.Proofs.Installation.Trail
import CapabilityGateway.Proofs.Network.Surface

/-!
# Calls of a network

The objects of a network can be had directly and by the global names of the contexts that they are
installed in. However a member is come by, calling it is performing its operation: with the same
arguments, once, and the result goes back as it is. So what happens to the transport over time can
be read off the calls, whatever else happens in between.

* `Network.Relays`: this law, for calls through several contexts whose namespaces and host change.
* `Network.relays_iff_run`: the calls that are made follow it.
* `Network.run_of_implements`: what a host receives and answers that implements a transport.
* `Network.verbatim_relay`: all of this about the networks of one transport, and that nothing else
  reaches the transport.
-/

namespace CapabilityGateway

/-- What an installation has to tell goes into the records alone. -/
theorem Installation.alike_announce (i : Installation) (logger : AuditLogger) (w : World) :
    w.Alike (i.announce logger w) := by
  unfold announce
  induction i.notices generalizing w with
  | nil => exact ⟨rfl, rfl, rfl, rfl, rfl, rfl⟩
  | cons n rest ih =>
    refine World.Alike.trans ?_ (ih _)
    cases n with
    | present name => exact .emit w _
    | _ => exact (World.Alike.emit w _).trans (.audit _ logger _)

theorem Namespace.Change.alike_perform (logger : AuditLogger) (c : Change) (s : Namespace × World) :
    s.2.Alike (c.perform logger s).2 := by
  cases c with
  | edit e => exact ⟨rfl, rfl, rfl, rfl, rfl, rfl⟩
  | install bindings => exact Installation.alike_announce _ logger s.2

namespace Network

/-! ## Steps -/

/-- How a caller comes by an object: the host has it, a guest finds it under its name. -/
inductive Route where
  | direct
  | global

/-- What happens around the networks of some contexts. -/
inductive Step where
  /-- A member of an object of the context's network is called. -/
  | call (context : String) (route : Route) (p : Part) (key : String) (arguments : List Value)
  /-- The namespace of the context changes. -/
  | change (context : String) (c : Namespace.Change)
  /-- Something else happens in the host. -/
  | meanwhile (effect : World → World)

/-- The operation that a step is to lead to, with its arguments. -/
def Step.performs? : Step → Option (Operation × List Value)
  | .call _ _ p key arguments => (p.operation? key).map fun operation => (operation, arguments)
  | _ => none

/-- A change brings nothing along that passes for an object of the context's network. -/
def Step.Unforged (networks : String → Network) : Step → Prop
  | .change context c => c.AllValues (networks context).Unforged
  | _ => True

/-- Contexts, by their identifiers, in a host. -/
structure Scene where
  globals : String → Namespace
  world : World

namespace Scene

/-- An object of the network that a context has. -/
def reach (networks : String → Network) (s : Scene) (context : String) (p : Part) :
    Route → Except Fault Value
  | .direct => .ok ((networks context).part p)
  | .global => (s.globals context).resolve p.name

/-- The scene after a change of a namespace, where installations report to a logger. -/
def change (logger : AuditLogger) (s : Scene) (context : String) (c : Namespace.Change) : Scene :=
  let (g, w) := c.perform logger (s.globals context, s.world)
  ⟨Function.update s.globals context g, w⟩

/-- Every context offers its network. -/
def Offers (networks : String → Network) (s : Scene) : Prop :=
  ∀ context, (s.globals context).Offers (networks context)

end Scene

/-- What the caller of a step gets. -/
inductive Reply where
  | called (result : Except Fault Value)
  | done

/-- One step. A member that the object has not got is undefined, which cannot be called. A call has
no outcome when its depth does not suffice. -/
def Step.perform (networks : String → Network) (logger : AuditLogger) (depth : Nat) (s : Scene) :
    Step → Option (Reply × Scene)
  | .call context route p key arguments =>
    match s.reach networks context p route with
    | .error e => some (.called (.error e), s)
    | .ok v =>
      match Invoker.call (Callable.invoke (depth + 1)) ((v.member? key).getD .undefined) arguments
        s.world with
      | some (r, w) => some (.called r, { s with world := w })
      | none => none
  | .change context c => some (.done, s.change logger context c)
  | .meanwhile effect => some (.done, { s with world := effect s.world })

/-- Steps one after another, with their replies. -/
def run (networks : String → Network) (logger : AuditLogger) (depth : Nat) :
    List Step → Scene → Option (List Reply × Scene)
  | [], s => some ([], s)
  | step :: rest, s =>
    (step.perform networks logger depth s).bind fun p =>
      (run networks logger depth rest p.2).map fun q => (p.1 :: q.1, q.2)

/-! ## The law -/

/-- The steps lead from one scene to another with these replies, and the transport performs exactly
these operations, in this order. -/
inductive Relays (transport : Identity) (logger : AuditLogger) (depth : Nat) :
    Scene → List Step → List Reply → List (Operation × List Value) → Scene → Prop where
  | done (s : Scene) : Relays transport logger depth s [] [] [] s
  | performed {s s' : Scene} {w : World} {context : String} {route : Route} {p : Part}
      {key : String} {arguments : List Value} {operation : Operation} {r : Except Fault Value}
      {steps : List Step} {replies : List Reply} {operations : List (Operation × List Value)}
      (member : p.operation? key = some operation)
      -- The result and the world that the operation leaves are those of the call.
      (performed : (Callable.invoke depth).perform transport operation arguments s.world =
        some (r, w))
      (rest : Relays transport logger depth { s with world := w } steps replies operations s') :
      Relays transport logger depth s (.call context route p key arguments :: steps)
        (.called r :: replies) ((operation, arguments) :: operations) s'
  | absent {s s' : Scene} {context : String} {route : Route} {p : Part} {key : String}
      {arguments : List Value} {steps : List Step} {replies : List Reply}
      {operations : List (Operation × List Value)} (absent : p.operation? key = none)
      (rest : Relays transport logger depth s steps replies operations s') :
      Relays transport logger depth s (.call context route p key arguments :: steps)
        (.called (.error Value.undefined.notCallable) :: replies) operations s'
  | changed {s s' : Scene} {context : String} {c : Namespace.Change} {steps : List Step}
      {replies : List Reply} {operations : List (Operation × List Value)}
      (rest : Relays transport logger depth (s.change logger context c) steps replies operations
        s') :
      Relays transport logger depth s (.change context c :: steps) (.done :: replies) operations s'
  | meanwhile {s s' : Scene} {effect : World → World} {steps : List Step} {replies : List Reply}
      {operations : List (Operation × List Value)}
      (rest : Relays transport logger depth { s with world := effect s.world } steps replies
        operations s') :
      Relays transport logger depth s (.meanwhile effect :: steps) (.done :: replies) operations s'

section Runs

variable {transport : Identity} {networks : String → Network} {logger : AuditLogger} {depth : Nat}
  {s s' : Scene} {p : Part} {key : String}

theorem Scene.Offers.reach (hs : s.Offers networks) (context : String) (p : Part) (route : Route) :
    s.reach networks context p route = .ok ((networks context).part p) := by
  cases route with
  | direct => rfl
  | global => exact (hs context).resolve p

theorem Scene.Offers.change (hs : s.Offers networks) {context : String} {c : Namespace.Change}
    (hc : c.AllValues (networks context).Unforged) (logger : AuditLogger) :
    (s.change logger context c).Offers networks := by
  intro other
  simp only [Scene.change, c.perform_fst]
  by_cases h : other = context
  · subst h
    rw [Function.update_self]
    exact (hs other).apply hc
  · rw [Function.update_of_ne h]
    exact hs other

/-- Calling a member is performing its operation. The call is one of those that may be open, which
leaves the operation one less. -/
theorem perform_call_of_some (hserves : ∀ context, Serves transport (networks context))
    (hs : s.Offers networks) {operation : Operation} (h : p.operation? key = some operation)
    (context : String) (route : Route) (arguments : List Value) :
    (Step.call context route p key arguments).perform networks logger depth s =
      match (Callable.invoke depth).perform transport operation arguments s.world with
      | some (r, w) => some (.called r, { s with world := w })
      | none => none := by
  obtain ⟨i, hmember⟩ := (hserves context).member p key operation h
  simp only [Step.perform, hs.reach, hmember, Option.getD_some]
  rfl

theorem perform_call_of_none (hserves : ∀ context, Serves transport (networks context))
    (hs : s.Offers networks) (h : p.operation? key = none) (context : String) (route : Route)
    (arguments : List Value) :
    (Step.call context route p key arguments).perform networks logger depth s =
      some (.called (.error Value.undefined.notCallable), s) := by
  simp only [Step.perform, hs.reach, (hserves context).absent p key h, Option.getD_none]
  rfl

theorem run_cons_of_perform {step : Step} {rest : List Step} {s₁ : Scene} {reply : Reply}
    {replies : List Reply} (hstep : step.perform networks logger depth s = some (reply, s₁))
    (hrest : run networks logger depth rest s₁ = some (replies, s')) :
    run networks logger depth (step :: rest) s = some (reply :: replies, s') := by
  rw [run, hstep, Option.bind_some, hrest]
  rfl

theorem performs?_call_of_some {operation : Operation} (h : p.operation? key = some operation)
    (context : String) (route : Route) (arguments : List Value) :
    (Step.call context route p key arguments).performs? = some (operation, arguments) := by
  rw [Step.performs?, h, Option.map_some]

theorem performs?_call_of_none (h : p.operation? key = none) (context : String) (route : Route)
    (arguments : List Value) : (Step.call context route p key arguments).performs? = none := by
  rw [Step.performs?, h, Option.map_none]

/-- What the law allows is what the steps come to, and its operations are those that the calls stand
for. -/
theorem run_of_relays (hserves : ∀ context, Serves transport (networks context)) {steps : List Step}
    {replies : List Reply} {operations : List (Operation × List Value)}
    (h : Relays transport logger depth s steps replies operations s')
    (hs : s.Offers networks) (hsteps : ∀ step ∈ steps, step.Unforged networks) :
    run networks logger depth steps s = some (replies, s') ∧
      operations = steps.filterMap Step.performs? := by
  induction h with
  | done s => exact ⟨rfl, rfl⟩
  | performed member performed rest ih =>
    obtain ⟨hrun, rfl⟩ := ih hs (List.forall_mem_cons.mp hsteps).2
    rw [List.filterMap_cons_some (performs?_call_of_some member _ _ _)]
    refine ⟨run_cons_of_perform ?_ hrun, rfl⟩
    rw [perform_call_of_some hserves hs member, performed]
  | absent absent rest ih =>
    obtain ⟨hrun, rfl⟩ := ih hs (List.forall_mem_cons.mp hsteps).2
    rw [List.filterMap_cons_none (performs?_call_of_none absent _ _ _)]
    exact ⟨run_cons_of_perform (perform_call_of_none hserves hs absent _ _ _) hrun, rfl⟩
  | changed rest ih =>
    obtain ⟨hc, hrest⟩ := List.forall_mem_cons.mp hsteps
    obtain ⟨hrun, rfl⟩ := ih (hs.change hc logger) hrest
    exact ⟨run_cons_of_perform rfl hrun, rfl⟩
  | meanwhile rest ih =>
    obtain ⟨hrun, rfl⟩ := ih hs (List.forall_mem_cons.mp hsteps).2
    exact ⟨run_cons_of_perform rfl hrun, rfl⟩

theorem relays_of_run (hserves : ∀ context, Serves transport (networks context)) {steps : List Step}
    {replies : List Reply} (hs : s.Offers networks)
    (hsteps : ∀ step ∈ steps, step.Unforged networks)
    (h : run networks logger depth steps s = some (replies, s')) :
    Relays transport logger depth s steps replies (steps.filterMap Step.performs?) s' := by
  induction steps generalizing s replies with
  | nil =>
    cases h
    exact .done _
  | cons step rest ih =>
    obtain ⟨hstep, hrest⟩ := List.forall_mem_cons.mp hsteps
    obtain ⟨⟨reply, s₁⟩, hperform, h⟩ := Option.bind_eq_some_iff.mp h
    obtain ⟨⟨later, s₂⟩, hlater, h⟩ := Option.map_eq_some_iff.mp h
    cases h
    cases step with
    | call context route p key arguments =>
      cases hoperation : p.operation? key with
      | some operation =>
        rw [perform_call_of_some hserves hs hoperation] at hperform
        rw [List.filterMap_cons_some (performs?_call_of_some hoperation _ _ _)]
        split at hperform
        · rename_i hperformed
          cases hperform
          exact .performed hoperation hperformed (ih hs hrest hlater)
        · cases hperform
      | none =>
        rw [perform_call_of_none hserves hs hoperation] at hperform
        rw [List.filterMap_cons_none (performs?_call_of_none hoperation _ _ _)]
        cases hperform
        exact .absent hoperation (ih hs hrest hlater)
    | change context c =>
      cases hperform
      exact .changed (ih (hs.change hstep logger) hrest hlater)
    | meanwhile effect =>
      cases hperform
      exact .meanwhile (ih hs hrest hlater)

theorem relays_iff_run (hserves : ∀ context, Serves transport (networks context))
    (hs : s.Offers networks) {steps : List Step} (hsteps : ∀ step ∈ steps, step.Unforged networks)
    {replies : List Reply} {operations : List (Operation × List Value)} :
    Relays transport logger depth s steps replies operations s' ↔
      run networks logger depth steps s = some (replies, s') ∧
        operations = steps.filterMap Step.performs? := by
  constructor
  · exact fun h => run_of_relays hserves h hs hsteps
  · rintro ⟨h, rfl⟩
    exact relays_of_run hserves hs hsteps h

/-! ## Hosts that implement a transport -/

/-- The replies to some steps when the machine performs the operations that the calls stand for. -/
def expected (m : Transport.Machine) : m.State → List Step → List Reply
  | _, [] => []
  | σ, .call _ _ p key arguments :: rest =>
    match p.operation? key with
    | some operation =>
      let (r, σ) := m.perform σ operation arguments
      .called r :: expected m σ rest
    | none => .called (.error Value.undefined.notCallable) :: expected m σ rest
  | σ, _ :: rest => .done :: expected m σ rest

theorem run_of_implements (hserves : ∀ context, Serves transport (networks context))
    {m : Transport.Machine} {σ : m.State} {steps : List Step} (hs : s.Offers networks)
    (hsteps : ∀ step ∈ steps, step.Unforged networks) (hm : s.world.Implements transport m σ)
    (hspares : ∀ effect, .meanwhile effect ∈ steps → World.Spares transport effect) :
    ∃ s', run networks logger depth steps s = some (expected m σ steps, s') ∧
      s'.world.performed = s.world.performed ++ steps.filterMap Step.performs? ∧
      s'.world.Implements transport m (m.after σ (steps.filterMap Step.performs?)) := by
  induction steps generalizing s σ with
  | nil => exact ⟨s, rfl, (List.append_nil _).symm, hm⟩
  | cons step rest ih =>
    obtain ⟨hstep, hrest⟩ := List.forall_mem_cons.mp hsteps
    have hlater : ∀ effect, .meanwhile effect ∈ rest → World.Spares transport effect :=
      fun effect heffect => hspares effect (List.mem_cons_of_mem _ heffect)
    cases step with
    | call context route p key arguments =>
      cases hoperation : p.operation? key with
      | some operation =>
        obtain ⟨hperform, hmoved⟩ := hm.perform (Callable.invoke depth) operation arguments
        have hcall := @perform_call_of_some transport networks logger depth s p key hserves hs
          operation hoperation context route arguments
        rw [hperform] at hcall
        have hoffers : Scene.Offers networks
            { s with world := (s.world.receive (.performed operation arguments)).2 } := hs
        obtain ⟨s', hrun, hperformed, hleft⟩ := ih hoffers hrest hmoved hlater
        rw [World.performed_receive, List.append_assoc] at hperformed
        rw [List.filterMap_cons_some (performs?_call_of_some hoperation _ _ _)]
        refine ⟨s', ?_, hperformed, hleft⟩
        simp only [expected, hoperation]
        exact run_cons_of_perform hcall hrun
      | none =>
        obtain ⟨s', hrun, hleft⟩ := ih hs hrest hm hlater
        rw [List.filterMap_cons_none (performs?_call_of_none hoperation _ _ _)]
        refine ⟨s', ?_, hleft⟩
        simp only [expected, hoperation]
        exact run_cons_of_perform (perform_call_of_none hserves hs hoperation _ _ _) hrun
    | change context c =>
      have halike : s.world.Alike (s.change logger context c).world :=
        Namespace.Change.alike_perform logger c (s.globals context, s.world)
      obtain ⟨s', hrun, hperformed, hleft⟩ :=
        ih (hs.change hstep logger) hrest (hm.of_alike halike) hlater
      rw [World.performed_of_alike halike] at hperformed
      exact ⟨s', run_cons_of_perform rfl hrun, hperformed, hleft⟩
    | meanwhile effect =>
      obtain ⟨hspared, hsame⟩ := hm.of_spares (hspares effect List.mem_cons_self)
      have hoffers : Scene.Offers networks { s with world := effect s.world } := hs
      obtain ⟨s', hrun, hperformed, hleft⟩ := ih hoffers hrest hspared hlater
      rw [hsame] at hperformed
      exact ⟨s', run_cons_of_perform rfl hrun, hperformed, hleft⟩

end Runs

/-! ## The whole law -/

/-- What holds of the networks of one transport, wherever and whenever they are made. Each consists
of two objects, whose members stand for the operations. A context that is given a network when it is
made offers it under its global names, and so does one that it is installed into later.

From then on, however the namespaces of the contexts and the host around them change, calling a
member that the objects have is performing the operation that it stands for, on the arguments as
they are, and ends as the operation does; other members cannot be called. So the operations that are
performed are the ones that the calls stand for, one for each and in the order of the calls. When
the host implements a transport with a state, this is what it is asked for, and the calls end as the
operations do for the transport. Any transport with a state has such a host.

Nothing else in a context reaches the transport. Whatever its values are made of, only the members
lead there, and no change brings another way. What does not lead there at all can be called any
number of times, as long as the host keeps the transport to itself: the transport has no part in it,
and nothing that comes back leads there either. -/
theorem verbatim_relay (transport : Identity) (made : String → World) :
    let networks := fun context => (ofTransport transport (made context)).1
    let granted : Set Callable := { f | ∃ context, f ∈ (networks context).members }
    (∀ context, Serves transport (networks context)) ∧
    (∀ context c, Context.Networked transport granted (networks context) c →
      c.global.Offers (networks context) ∧
        c.global.AllValues fun v => ¬ v.Reaches transport granted) ∧
    (∀ (g : Namespace) (bindings : List (String × Value)) (context : String),
      (Installation.run g bindings).result = .ok () →
      (∀ p : Part, (p.name, (networks context).part p) ∈ bindings) →
      g.AllValues (networks context).Unforged →
      (∀ b ∈ bindings, (networks context).Unforged b.2) →
      (Installation.run g bindings).left.Offers (networks context)) ∧
    (∀ (logger : AuditLogger) (depth : Nat) (steps : List Step) (s : Scene),
      s.Offers networks → (∀ step ∈ steps, step.Unforged networks) →
      (∀ replies operations s', Relays transport logger depth s steps replies operations s' ↔
        run networks logger depth steps s = some (replies, s') ∧
          operations = steps.filterMap Step.performs?) ∧
      ∀ (m : Transport.Machine) (σ : m.State), s.world.Implements transport m σ →
        (∀ effect, .meanwhile effect ∈ steps → World.Spares transport effect) →
        ∃ s', run networks logger depth steps s = some (expected m σ steps, s') ∧
          s'.world.performed = s.world.performed ++ steps.filterMap Step.performs?) ∧
    (∀ (m : Transport.Machine) (σ : m.State), (m.host σ).Implements transport m σ) ∧
    (∀ (g : Namespace) (changes : List Namespace.Change),
      (g.AllValues fun v => ¬ v.Reaches transport granted) →
      (∀ c ∈ changes, c.AllValues fun v => ¬ v.Reaches transport granted) →
      (g.after changes).AllValues fun v => ¬ v.Reaches transport granted) ∧
    ∀ (w : World) (calls : List (Value × List Value)) (depth : Nat) (t : Transport),
      w.Secluded transport → (∀ call ∈ calls, Value.CallAvoids transport call) →
      Invoker.callEach (Callable.invoke depth) calls (w.plug transport t) =
        (Invoker.callEach (Callable.invoke depth) calls w).map
          (fun p => (p.1, p.2.plug transport t)) ∧
      ∀ results w', Invoker.callEach (Callable.invoke depth) calls w = some (results, w') →
        w'.Secluded transport ∧ ∀ v, .ok v ∈ results → ¬ v.Reaches transport ∅ := by
  intro networks granted
  have hserves : ∀ context, Serves transport (networks context) :=
    fun context => serves_ofTransport transport (made context)
  refine ⟨hserves, fun context c hc => ?_, fun g bindings context hok hparts hg hbindings => ?_,
    fun logger depth steps s hs hsteps =>
      ⟨fun replies operations s' => ?_, fun m σ hm hspares => ?_⟩,
    World.implements_host transport, fun g changes hg hchanges => hg.after hchanges,
    fun w calls depth t hw hcalls => Invoker.callEach_plug hw hcalls depth t⟩
  · have hgranted : (networks context).members ⊆ granted := fun f hf => ⟨context, hf⟩
    exact (hc.offers hgranted).2
  · exact Namespace.offers_of_run hok hparts hg hbindings
  · exact relays_iff_run hserves hs hsteps
  · obtain ⟨s', hrun, hperformed, -⟩ := run_of_implements hserves hs hsteps hm hspares
    exact ⟨s', hrun, hperformed⟩

/-- A transport that counts the arguments that it has been given and refuses to listen. -/
def tally : Transport.Machine where
  State := Nat
  perform σ operation arguments :=
    (if operation = .listen then .error (.typeError "refused")
      else .ok (.string (if σ = 0 then "first" else "later")), σ + arguments.length)

/-- One context gets a network when it is made, and another has it installed. Both are attacked, and
their members are called by turns: some succeed, one fails and one is not there. The console of the
first context has no part in it. -/
theorem verbatim_relay_interleaved :
    let w := { tally.host (0 : Nat) with next := 1 }
    let made := fun _ : String => (Console.create ⟨.discard, .silent⟩ w).2
    let networks := fun context => (ofTransport 0 (made context)).1
    let bindings := [("net", (networks "b").net), ("tls", (networks "b").tls)]
    let steps : List Step := [
      .call "a" .global .net "connect" [.string "host", .null],
      .change "a" (.edit (.set "net" .null)), .change "b" (.install [("tls", .null)]),
      .call "b" .global .tls "startTls" [], .call "a" .direct .net "listen" [.bool true],
      .meanwhile fun w => w.emit (.consoleCreated "discard"),
      .call "a" .global .net "startTls" [.null], .call "b" .direct .tls "connect" [.null]]
    let elsewhere : Value × List Value := (.function (.mk 9 (.report "elsewhere")), [.null])
    ∃ c w', Context.create "a" .empty ⟨.discard, true, false⟩ ⟨none, some 0, none⟩ w = (.ok c, w') ∧
      (∃ s', run networks .silent 0 steps ⟨fun context =>
            if context = "b" then (Installation.run .empty bindings).left else c.global, w'⟩ =
          some ([.called (.ok (.string "first")), .done, .done, .called (.ok (.string "later")),
            .called (.error (.typeError "refused")), .done,
            .called (.error Value.undefined.notCallable), .called (.ok (.string "later"))], s') ∧
        s'.world.performed = [(.connect, [.string "host", .null]), (.startTls, []),
          (.listen, [.bool true]), (.connectTls, [.null])]) ∧
      ∀ t, Invoker.callEach (Callable.invoke 1) [elsewhere] (w.plug 0 t) =
        some ([.ok .undefined], (w.receive (.reported "elsewhere" [.null])).2.plug 0 t) := by
  intro w made networks bindings steps elsewhere
  obtain ⟨hserves, hcontexts, hinstalled, hruns, hhosts, -, hsecluded⟩ := verbatim_relay 0 made
  obtain ⟨c, w', hcreate, hheld, hcalls, htransports, hanswer⟩ :
      ∃ c w', Context.create "a" .empty ⟨.discard, true, false⟩ ⟨none, some 0, none⟩ w =
          (.ok c, w') ∧
        (∀ p : Part, c.global.get? p.name = some ((networks "a").part p)) ∧ w'.calls = [] ∧
        w'.transports = w.transports ∧ w'.answer = w.answer := by
    refine ⟨_, _, rfl, fun p => ?_, rfl, rfl, rfl⟩
    cases p <;> rfl
  have hm : w'.Implements 0 tally (0 : Nat) :=
    (hhosts tally (0 : Nat)).after (congrFun htransports 0) hanswer hcalls
  have hnull : ∀ context, (networks context).Unforged .null :=
    fun context => unforged_ofTransport (Value.knownTo_of_plain rfl _) 0
  have hoffers : Scene.Offers networks
      ⟨fun context => if context = "b" then (Installation.run .empty bindings).left else c.global,
        w'⟩ := by
    intro context
    by_cases h : context = "b"
    · simp only [if_pos h]
      refine hinstalled .empty bindings "b" rfl (fun p => ?_) (Namespace.allValues_empty _) ?_
      · cases p with
        | net => exact List.mem_cons_self
        | tls => exact List.mem_cons_of_mem _ List.mem_cons_self
      · simp only [bindings, List.forall_mem_cons]
        exact ⟨(hserves "b").unforged_part .net, (hserves "b").unforged_part .tls, by simp⟩
    · simp only [if_neg h]
      exact (hcontexts "a" c (.withOptions rfl rfl (Namespace.knownTo_empty w)
        (Namespace.allValues_empty _) (congrArg Prod.fst hcreate) hheld)).1
  have hsteps : ∀ step ∈ steps, step.Unforged networks := by
    intro step hstep
    cases step with
    | change context c =>
      simp only [steps, List.mem_cons, reduceCtorEq, Step.change.injEq, List.not_mem_nil, or_false,
        false_or] at hstep
      rcases hstep with ⟨rfl, rfl⟩ | ⟨rfl, rfl⟩
      · rintro _ ⟨⟩
        exact hnull "a"
      · intro b hb
        rw [List.mem_singleton.mp hb]
        exact hnull "b"
    | _ => trivial
  have hspares : ∀ effect, .meanwhile effect ∈ steps → World.Spares 0 effect := by
    intro effect heffect
    simp only [steps, List.mem_cons, reduceCtorEq, Step.meanwhile.injEq, List.not_mem_nil, or_false,
      false_or] at heffect
    rw [heffect]
    exact ⟨fun _ => rfl, fun _ => rfl, fun w => ⟨[], (List.append_nil w.calls).symm, rfl⟩⟩
  obtain ⟨s', hrun, hperformed⟩ :=
    (hruns .silent 0 steps _ hoffers hsteps).2 tally (0 : Nat) hm hspares
  refine ⟨c, w', hcreate, ⟨s', hrun, ?_⟩, fun t => ?_⟩
  · rw [hperformed, World.performed, hcalls]
    rfl
  · refine (hsecluded w [elsewhere] 1 t ⟨fun bridge key f hf => ?_,
      fun other operation v _ hv => ?_, fun calls call v hv => ?_⟩ ?_).1
    · cases hf
    · cases hv
    · cases call with
      | reported tag arguments =>
        cases hv
        exact Value.not_reaches_of_plain (by simp [Value.typeName])
      | performed operation arguments =>
        by_cases hlisten : operation = .listen
        · simp [w, Transport.Machine.host, World.initial, tally, hlisten] at hv
        · simp only [w, Transport.Machine.host, World.initial, tally, if_neg hlisten,
            Except.ok.injEq] at hv
          rw [← hv]
          exact Value.not_reaches_of_plain (by simp [Value.typeName])
    · intro call hcall
      rw [List.mem_singleton.mp hcall]
      refine ⟨fun h => ?_, fun v hv => ?_⟩
      · cases h with
        | callable _ h => cases h
      · rw [List.mem_singleton.mp hv]
        exact Value.not_reaches_of_plain (by simp [Value.typeName])

end Network

end CapabilityGateway
