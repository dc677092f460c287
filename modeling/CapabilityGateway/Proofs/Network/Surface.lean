import CapabilityGateway.Proofs.Host.Seclusion
import CapabilityGateway.Proofs.Namespace.Freshness
import CapabilityGateway.Proofs.Sandbox.Assembly

/-!
# The objects of a network

A transport shows itself as two objects. Each has a member for every operation that it offers and no
other member, and these members are all there is to reach the transport by. Once the objects are
installed, their names lead to them for as long as the namespace lives.

That a name stays fixed means that its value stays up to sameness. Objects are the same when they
have one identity, so it takes that no other object passes for one of the two.

* `Network.Part.operation?`: which member stands for which operation.
* `Network.serves_ofTransport`: the two objects that are made for a transport.
* `Network.Serves.not_reaches_part`: they lead to the transport by their members alone.
* `Namespace.offers_of_run`, `Namespace.Offers.apply`: the global names come to lead to the objects,
  and never cease to.
* `Context.Networked.offers`: so do those of a context that is given a network.
-/

namespace CapabilityGateway

namespace Network

/-- The objects of a network: the one for plain connections and the one for secure ones. -/
inductive Part where
  | net
  | tls
  deriving DecidableEq

/-- The global name of the object. -/
def Part.name : Part → String
  | .net => "net"
  | .tls => "tls"

/-- The members of the object, with the operations that they stand for. -/
def Part.operations : Part → Dictionary Operation
  | .net => [("connect", .connect), ("listen", .listen)]
  | .tls => [("connect", .connectTls), ("listen", .listenTls), ("startTls", .startTls)]

/-- The operation that a member of the object stands for. -/
def Part.operation? (p : Part) (key : String) : Option Operation := Dictionary.get? key p.operations

def part (n : Network) : Part → Value
  | .net => n.net
  | .tls => n.tls

/-- The network shows the operations of a transport and nothing else, by two different objects. -/
structure Serves (transport : Identity) (n : Network) : Prop where
  keys : ∀ p, ∃ i ps, n.part p = .object i ps ∧
    Dictionary.names ps = Dictionary.names p.operations
  member : ∀ p key operation, p.operation? key = some operation →
    ∃ i, (n.part p).member? key = some (.function (.mk i (.relay transport operation)))
  absent : ∀ p key, p.operation? key = none → (n.part p).member? key = none
  distinct : ∀ p q, (n.part p).same (n.part q) = true → p = q

/-- What is the same as one of the objects is this object. -/
def Unforged (n : Network) (v : Value) : Prop := ∀ p, v.same (n.part p) = true → v = n.part p

/-- The callables by which the transport of a network can be reached. -/
def members (n : Network) : Set Callable :=
  { f | ∃ p key, (n.part p).member? key = some (.function f) }

end Network

/-- The global names lead to the objects of the network, fixed and hidden, and nothing in the
namespace passes for one of them. -/
structure Namespace.Offers (g : Namespace) (n : Network) : Prop where
  bound : ∀ p : Network.Part, g.property? p.name = some (.fixedHidden (n.part p))
  unforged : g.AllValues n.Unforged

/-! ## Making the objects -/

namespace Network

variable {transport : Identity} {n : Network} {p : Part} {key : String}

theorem part_ofTransport (transport : Identity) (w : World) (p : Part) :
    ∃ i, (ofTransport transport w).1.part p =
      World.surfaceFrom i (Dictionary.mapValues (.relay transport) p.operations) := by
  rw [ofTransport_eq]
  cases p <;> exact ⟨_, rfl⟩

theorem member?_part_ofTransport (transport : Identity) (w : World) (p : Part) (key : String) :
    match p.operation? key with
    | some operation => ∃ i, ((ofTransport transport w).1.part p).member? key =
        some (.function (.mk i (.relay transport operation)))
    | none => ((ofTransport transport w).1.part p).member? key = none := by
  obtain ⟨i, hpart⟩ := part_ofTransport transport w p
  have hmember := World.get?_membersFrom i
    (Dictionary.mapValues (.relay transport) p.operations) key
  rw [Dictionary.get?_mapValues, ← Part.operation?] at hmember
  rw [hpart]
  cases hoperation : p.operation? key with
  | some operation =>
    rw [hoperation] at hmember
    exact hmember
  | none =>
    rw [hoperation] at hmember
    exact hmember

theorem serves_ofTransport (transport : Identity) (w : World) :
    Serves transport (ofTransport transport w).1 where
  keys p := by
    obtain ⟨i, hpart⟩ := part_ofTransport transport w p
    refine ⟨_, _, hpart, ?_⟩
    rw [World.names_membersFrom]
    exact Dictionary.names_mapValues _ p.operations
  member p key operation h := by
    have hmember := member?_part_ofTransport transport w p key
    rwa [h] at hmember
  absent p key h := by
    have hmember := member?_part_ofTransport transport w p key
    rwa [h] at hmember
  distinct p q h := by
    rw [ofTransport_eq] at h
    cases p <;> cases q <;> simp_all [part, World.surfaceFrom, Value.same, Value.eq, netMembers,
      tlsMembers]

/-- All that an object holds are members by which the transport can be reached. -/
theorem Serves.not_reaches_part (h : Serves transport n) {granted : Set Callable}
    (hgranted : n.members ⊆ granted) (p : Part) : ¬ (n.part p).Reaches transport granted := by
  obtain ⟨i, ps, hpart, hkeys⟩ := h.keys p
  have hnodup : (Dictionary.names ps).Nodup := by
    rw [hkeys]
    cases p <;> decide
  rw [hpart]
  intro hreaches
  cases hreaches with
  | @property _ _ key v hv hreaches =>
    have hmember : (n.part p).member? key = some v := by
      rw [hpart]
      exact Dictionary.get?_of_mem hnodup hv
    cases hoperation : p.operation? key with
    | none =>
      rw [h.absent p key hoperation] at hmember
      cases hmember
    | some operation =>
      obtain ⟨j, hj⟩ := h.member p key operation hoperation
      obtain rfl := Option.some.inj (hmember.symm.trans hj)
      cases hreaches with
      | callable hf _ => exact hf (hgranted ⟨p, key, hj⟩)

theorem Serves.unforged_part (h : Serves transport n) (p : Part) : n.Unforged (n.part p) := by
  intro q hsame
  rw [h.distinct p q hsame]

end Network

/-! ## Namespaces -/

namespace Namespace

variable {transport : Identity} {n : Network} {g : Namespace}

theorem Offers.resolve (h : g.Offers n) (p : Network.Part) : g.resolve p.name = .ok (n.part p) :=
  resolve_of_property? (h.bound p)

/-- No change takes the objects away or puts others in their place. -/
theorem Offers.apply (h : g.Offers n) {c : Change} (hc : c.AllValues n.Unforged) :
    (c.apply g).Offers n := by
  have hunforged := h.unforged.apply hc
  refine ⟨fun p => ?_, hunforged⟩
  obtain ⟨⟨value, attributes⟩, hq, hattributes, hvalue⟩ :=
    c.fixedPersist g p.name _ (h.bound p) rfl
  cases hattributes
  have hpart : value = n.part p := hunforged p.name _ hq p (hvalue rfl)
  rw [hq, hpart]
  rfl

/-- An installation of the two objects makes the namespace offer them. -/
theorem offers_of_run {bindings : List (String × Value)}
    (hok : (Installation.run g bindings).result = .ok ())
    (hparts : ∀ p : Network.Part, (p.name, n.part p) ∈ bindings)
    (hg : g.AllValues n.Unforged) (hbindings : ∀ b ∈ bindings, n.Unforged b.2) :
    (Installation.run g bindings).left.Offers n := by
  refine ⟨fun p => ?_, hg.run hbindings⟩
  have hi := Installation.installable_of_run_ok hok
  rw [Installation.run_of_installable hi]
  exact property?_fixAll_of_mem hi.distinct (hparts p) g

end Namespace

/-! ## Contexts -/

/-- What was made before a network does not pass for one of its objects. -/
theorem Network.unforged_ofTransport {v : Value} {w : World} (hv : v.KnownTo w)
    (transport : Identity) : (ofTransport transport w).1.Unforged v := by
  intro p hsame
  have hpart : ∃ i ps, (ofTransport transport w).1.part p = .object i ps ∧ w.next ≤ i := by
    rw [ofTransport_eq]
    cases p with
    | net => exact ⟨_, _, rfl, Nat.le_add_right _ _⟩
    | tls => exact ⟨_, _, rfl, Nat.le_add_right w.next (3 + 3)⟩
  obtain ⟨i, ps, hpart, hi⟩ := hpart
  rw [hpart] at hsame
  cases v with
  | object j qs =>
    simp only [Value.same, Value.eq, beq_iff_eq] at hsame
    exact absurd (hv j rfl) (hsame ▸ Nat.not_lt.mpr hi)
  | _ => simp [Value.same, Value.eq] at hsame

/-- The members of a console write to its sink and lead nowhere else. -/
theorem Console.not_reaches_create (sink : Sink) (w : World) (transport : Identity)
    (granted : Set Callable) : ¬ (create sink w).1.surface.Reaches transport granted := by
  rw [create_eq]
  intro h
  cases h with
  | property hv h =>
    obtain ⟨j, b, rfl, hb⟩ := World.mem_membersFrom hv
    obtain ⟨method, -, hmethod⟩ := List.mem_map.mp hb
    cases hmethod
    cases h with
    | callable _ h => cases h

namespace Context

/-- The context was given the network when it was made, either with the capabilities that the host
put together or for a transport that the host offers. Nothing else that it was made of passes for an
object of the network, and nothing leads to the transport except by what is granted. -/
inductive Networked (transport : Identity) (granted : Set Callable) (n : Network) :
    Context → Prop where
  | withCapabilities {id : String} {g : Namespace} {capabilities : CapabilitySet}
      {logger : AuditLogger} {w : World} {c : Context} (serves : Network.Serves transport n)
      (network : capabilities.network = some n)
      (unforged : g.AllValues n.Unforged ∧ n.Unforged capabilities.console.surface)
      (confined : (g.AllValues fun v => ¬ v.Reaches transport granted) ∧
        ¬ capabilities.console.surface.Reaches transport granted)
      (made : (install id g capabilities logger w).1 = .ok c) : Networked transport granted n c
  | withOptions {id : String} {g : Namespace} {options : ContextOptions} {host : HostServices}
      {w : World} {c : Context} (network : options.network = true)
      (offered : host.transport = some transport) (known : g.KnownTo w)
      (confined : g.AllValues fun v => ¬ v.Reaches transport granted)
      (made : (create id g options host w).1 = .ok c)
      (held : ∀ p : Network.Part, c.global.get? p.name = some (n.part p)) :
      Networked transport granted n c

variable {transport : Identity} {n : Network} {id : String} {g : Namespace}
  {options : ContextOptions} {host : HostServices} {capabilities : CapabilitySet}
  {logger : AuditLogger} {w : World} {c : Context}

theorem bindings_of_network (h : capabilities.network = some n) :
    capabilities.bindings =
      [("console", capabilities.console.surface), ("net", n.net), ("tls", n.tls)] := by
  simp only [CapabilitySet.bindings, h]

/-- All values of a new context are of a kind when those that it was made of are. -/
theorem allValues_install {P : Value → Prop} (h : (install id g capabilities logger w).1 = .ok c)
    (hnetwork : capabilities.network = some n) (hg : g.AllValues P)
    (hconsole : P capabilities.console.surface) (hparts : ∀ p, P (n.part p)) :
    c.global.AllValues P := by
  obtain ⟨-, hglobal, -⟩ := installed_of_install_ok h
  rw [hglobal, bindings_of_network hnetwork]
  refine hg.fixAll ?_
  simp only [List.forall_mem_cons, List.not_mem_nil, false_implies, implies_true, and_true]
  exact ⟨hconsole, hparts .net, hparts .tls⟩

theorem offers_install (h : (install id g capabilities logger w).1 = .ok c)
    (hserves : Network.Serves transport n) (hnetwork : capabilities.network = some n)
    (hg : g.AllValues n.Unforged) (hconsole : n.Unforged capabilities.console.surface) :
    c.global.Offers n := by
  obtain ⟨hi, hglobal, -⟩ := installed_of_install_ok h
  refine ⟨fun p => ?_, allValues_install h hnetwork hg hconsole hserves.unforged_part⟩
  have hmem : (p.name, n.part p) ∈ capabilities.bindings := by
    rw [bindings_of_network hnetwork]
    cases p <;> simp [Network.Part.name, Network.part]
  rw [hglobal]
  exact Namespace.property?_fixAll_of_mem hi.distinct hmem g

/-- With a transport, a context that is made for options with a network gets a console and then a
network for the transport. -/
theorem create_eq_install_network {mode : SinkMode} (hmode : sinkMode? options host = some mode)
    (hnetwork : options.network = true) (htransport : host.transport = some transport) :
    create id g options host w =
      let made := Console.create ⟨mode, loggerFor options host⟩ w
      install id g ⟨made.1, some (Network.ofTransport transport made.2).1⟩ (loggerFor options host)
        (Network.ofTransport transport made.2).2 := by
  simp only [create, hmode, hnetwork, htransport, if_true]

/-- The network is made after everything else that the context has. -/
theorem exists_install_of_create (h : (create id g options host w).1 = .ok c)
    (hnetwork : options.network = true) (htransport : host.transport = some transport)
    (hg : g.KnownTo w) :
    ∃ console w₁ w₂,
      (install id g ⟨console, some (Network.ofTransport transport w₁).1⟩ (loggerFor options host)
        w₂).1 = .ok c ∧
      g.KnownTo w₁ ∧ console.surface.KnownTo w₁ ∧
      ∀ granted, ¬ console.surface.Reaches transport granted := by
  cases hmode : sinkMode? options host with
  | none =>
    rw [create_of_no_bridge hmode] at h
    cases h
  | some mode =>
    rw [create_eq_install_network hmode hnetwork htransport] at h
    refine ⟨_, _, _, h, fun name p hp i hi => ?_, fun i hi => ?_,
      Console.not_reaches_create _ w transport⟩
    · rw [Console.create_eq]
      exact Nat.lt_of_lt_of_le (hg name p hp i hi) (Nat.le_add_right w.next 7)
    · rw [Console.create_eq] at hi ⊢
      obtain rfl := Option.some.inj hi
      exact Nat.lt_succ_self (w.next + 6)

/-- A context with the network offers it, and its names lead to the transport by what is granted at
most. -/
theorem Networked.offers {granted : Set Callable} (hgranted : n.members ⊆ granted)
    (h : Networked transport granted n c) :
    Network.Serves transport n ∧ c.global.Offers n ∧
      c.global.AllValues fun v => ¬ v.Reaches transport granted := by
  cases h with
  | withCapabilities serves network unforged confined made =>
    exact ⟨serves, offers_install made serves network unforged.1 unforged.2,
      allValues_install made network confined.1 confined.2 (serves.not_reaches_part hgranted)⟩
  | @withOptions id g options host w _ network offered known confined made held =>
    obtain ⟨console, w₁, w₂, hmade, hg, hconsole, hreaches⟩ :=
      exists_install_of_create made network offered known
    have hserves := Network.serves_ofTransport transport w₁
    have hoffers := offers_install hmade hserves rfl
      (fun name p hp => Network.unforged_ofTransport (hg name p hp) transport)
      (Network.unforged_ofTransport hconsole transport)
    -- The names lead to the network that was made, so it is the one in question.
    have hn : n = (Network.ofTransport transport w₁).1 := by
      have hpart : ∀ p, n.part p = (Network.ofTransport transport w₁).1.part p := by
        intro p
        have hget := held p
        rw [Namespace.get?, hoffers.bound p] at hget
        exact (Option.some.inj hget).symm
      cases n
      exact congrArg₂ Network.mk (hpart .net) (hpart .tls)
    subst hn
    exact ⟨hserves, hoffers, allValues_install hmade rfl confined (hreaches granted)
      (hserves.not_reaches_part hgranted)⟩

end Context

end CapabilityGateway
