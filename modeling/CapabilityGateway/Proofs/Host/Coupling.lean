import CapabilityGateway.Host.Call

/-!
# What calls keep

A call can lead anywhere, but there is little that it can do to the world: it gives out identities,
reads and changes bridges, hands operations to transports, lets the host answer and loses lines. A
relation between two worlds that each of these keeps is kept by every call, however deep it goes,
and worlds so related answer the call alike.

* `Coupling`: such a relation, with the behaviours that it allows and the values that go round.
* `Coupling.invoke`: coupled worlds answer calls alike and stay coupled.
* `World.Invariant.invoke`: the case of one world and a property that it keeps.
-/

namespace CapabilityGateway

/-- The world after a console line found no host function. -/
def World.loseLine (w : World) (logger : AuditLogger) : World :=
  (w.emit (.lineDropped consoleKey)).audit logger (.hostFunctionMissing consoleKey)

/-- Two operations gave the same and left worlds that are related. -/
structure World.Match (R : World → World → Prop) {ρ : Type} (p p' : ρ × World) : Prop where
  result : p'.1 = p.1
  worlds : R p.2 p'.2

/-- Two worlds in which everything that a call can do has the same result and leaves two such worlds
again. Only some behaviours may come up, and only some values go in and come out. -/
structure Coupling where
  worlds : World → World → Prop
  behaviours : Behaviour → Prop
  values : Value → Prop
  plain : ∀ v : Value, v.typeName ∉ ["array", "object", "function"] → values v
  array : ∀ i vs, (∀ v ∈ vs, values v) → values (.array i vs)
  constant : ∀ v, behaviours (.constant v) → values v
  inTurn : ∀ vs, behaviours (.inTurn vs) → ∀ f, .function f ∈ vs → behaviours f.behaviour
  exactly : ∀ name count b, behaviours (.exactly name count b) → behaviours b
  fresh : ∀ w w', worlds w w' → World.Match worlds w.fresh w'.fresh
  receive : ∀ w w' call, worlds w w' → World.Match worlds (w.receive call) (w'.receive call)
  received : ∀ w w' call v, worlds w w' → (w.receive call).1 = .ok v → values v
  resolve : ∀ w w' bridge key, worlds w w' →
    (w'.bridges bridge).resolve key = (w.bridges bridge).resolve key
  resolved : ∀ w w' bridge key f, worlds w w' → (w.bridges bridge).resolve key = some f →
    behaviours f.behaviour
  register : ∀ w w' bridge key f, behaviours (.writeEntry bridge key f) → worlds w w' →
    World.Match worlds (w.register bridge key f) (w'.register bridge key f)
  unregister : ∀ w w' bridge key, worlds w w' →
    World.Match worlds (w.unregister bridge key) (w'.unregister bridge key)
  handler : ∀ w w' transport operation, behaviours (.relay transport operation) → worlds w w' →
    (w'.transports transport).handler operation = (w.transports transport).handler operation
  handled : ∀ w w' transport operation f, behaviours (.relay transport operation) → worlds w w' →
    (w.transports transport).handler operation = some (.function f) → behaviours f.behaviour
  loseLine : ∀ w w' sink, behaviours (.write sink) → worlds w w' →
    worlds (w.loseLine sink.logger) (w'.loseLine sink.logger)

namespace Coupling

/-- Two computations end alike: neither ends, or both end with the same result, which is good unless
it is a fault, in coupled worlds. -/
inductive Ends (c : Coupling) {α : Type} (good : α → Prop) : Outcome α → Outcome α → Prop where
  | unfinished : Ends c good none none
  | finished {r : Except Fault α} {w w' : World} (hr : ∀ a, r = .ok a → good a)
      (h : c.worlds w w') : Ends c good (some (r, w)) (some (r, w'))

namespace Ends

variable {c : Coupling} {α β : Type} {good : α → Prop} {w w' : World}

theorem ok {a : α} (ha : good a) (h : c.worlds w w') :
    c.Ends good (some (.ok a, w)) (some (.ok a, w')) := by
  refine finished ?_ h
  rintro _ ⟨⟩
  exact ha

theorem error (e : Fault) (h : c.worlds w w') :
    c.Ends good (some (.error e, w)) (some (.error e, w')) := by
  refine finished ?_ h
  rintro _ ⟨⟩

theorem map {o o' : Outcome α} (h : c.Ends good o o') {fine : β → Prop} {f : α → β}
    (hf : ∀ a, good a → fine (f a)) : c.Ends fine (o.map f) (o'.map f) := by
  cases h with
  | unfinished => exact unfinished
  | @finished r w w' hr h =>
    cases r with
    | error e => exact error e h
    | ok a => exact ok (hf a (hr a rfl)) h

theorem of_match {p p' : Except Fault α × World} (h : World.Match c.worlds p p')
    (hp : ∀ a, p.1 = .ok a → good a) : c.Ends good (some p) (some p') := by
  obtain ⟨r, w⟩ := p
  obtain ⟨r', w'⟩ := p'
  obtain ⟨rfl, hw⟩ := h
  exact finished hp hw

end Ends

/-- In coupled worlds the invoker answers alike whatever may be called. -/
def Keeps (c : Coupling) (invoke : Invoker) : Prop :=
  ∀ f arguments w w', c.behaviours f.behaviour → (∀ v ∈ arguments, c.values v) → c.worlds w w' →
    c.Ends c.values (invoke f arguments w) (invoke f arguments w')

namespace Keeps

variable {c : Coupling} {invoke : Invoker} {arguments : List Value} {w w' : World}

theorem call (hi : c.Keeps invoke) {v : Value}
    (hv : ∀ f, v = .function f → c.behaviours f.behaviour)
    (harguments : ∀ v ∈ arguments, c.values v) (h : c.worlds w w') :
    c.Ends c.values (invoke.call v arguments w) (invoke.call v arguments w') := by
  cases v with
  | function f => exact hi f arguments w w' (hv f rfl) harguments h
  | _ => exact .error _ h

theorem inTurn (hi : c.Keeps invoke) {vs : List Value}
    (hvs : ∀ f, .function f ∈ vs → c.behaviours f.behaviour)
    (harguments : ∀ v ∈ arguments, c.values v) {last : Value} (hlast : c.values last)
    (h : c.worlds w w') :
    c.Ends c.values (invoke.inTurn arguments vs last w) (invoke.inTurn arguments vs last w') := by
  induction vs generalizing last w w' with
  | nil => exact .ok hlast h
  | cons v rest ih =>
    have hcall := hi.call (fun f hf => hvs f (hf ▸ List.mem_cons_self)) harguments h
    have hrest : ∀ f, .function f ∈ rest → c.behaviours f.behaviour :=
      fun f hf => hvs f (List.mem_cons_of_mem _ hf)
    simp only [Invoker.inTurn]
    generalize invoke.call v arguments w = o at hcall ⊢
    generalize invoke.call v arguments w' = o' at hcall ⊢
    cases hcall with
    | unfinished => exact .unfinished
    | @finished r w₁ w₁' hr hw =>
      cases r with
      | error e => exact .error e hw
      | ok a => exact ih hrest (hr a rfl) hw

theorem callEntry (hi : c.Keeps invoke) (bridge : Identity) (key : String)
    (harguments : ∀ v ∈ arguments, c.values v) (h : c.worlds w w') :
    c.Ends c.values (invoke.callEntry bridge key arguments w)
      (invoke.callEntry bridge key arguments w') := by
  simp only [Invoker.callEntry, c.resolve w w' bridge key h]
  cases hf : (w.bridges bridge).resolve key with
  | none => exact .error _ h
  | some f => exact hi f arguments w w' (c.resolved w w' bridge key f h hf) harguments h

theorem perform (hi : c.Keeps invoke) {transport : Identity} {operation : Operation}
    (hb : c.behaviours (.relay transport operation)) (harguments : ∀ v ∈ arguments, c.values v)
    (h : c.worlds w w') :
    c.Ends c.values (invoke.perform transport operation arguments w)
      (invoke.perform transport operation arguments w') := by
  simp only [Invoker.perform, c.handler w w' transport operation hb h]
  cases hv : (w.transports transport).handler operation with
  | none =>
    exact .of_match (c.receive w w' _ h) fun v => c.received w w' _ v h
  | some v =>
    refine hi.call (fun f hf => ?_) harguments h
    exact c.handled w w' transport operation f hb h (hf ▸ hv)

/-- The callable that a line goes to is given the line alone, whatever the arguments are. -/
theorem write (hi : c.Keeps invoke) {sink : Sink} (hb : c.behaviours (.write sink))
    (arguments : List Value) (h : c.worlds w w') :
    c.Ends (fun _ => True) (invoke.write sink arguments w) (invoke.write sink arguments w') := by
  unfold Invoker.write
  cases sink.mode with
  | discard => exact .ok trivial h
  | forward bridge =>
    simp only [c.resolve w w' bridge consoleKey h]
    cases hf : (w.bridges bridge).resolve consoleKey with
    | none => exact .error _ (c.loseLine w w' sink hb h)
    | some f =>
      have hline : ∀ v ∈ [Value.string (Value.line arguments)], c.values v := by
        intro v hv
        rw [List.mem_singleton.mp hv]
        exact c.plain _ (by simp [Value.typeName])
      exact (hi f _ w w' (c.resolved w w' bridge _ f h hf) hline h).map fun _ _ => trivial

theorem react (hi : c.Keeps invoke) (harguments : ∀ v ∈ arguments, c.values v)
    (h : c.worlds w w') :
    ∀ b : Behaviour, c.behaviours b →
      c.Ends c.values (b.react invoke arguments w) (b.react invoke arguments w')
  | .nothing, _ => .ok (c.plain _ (by simp [Value.typeName])) h
  | .constant v, hb => .ok (c.constant v hb) h
  | .collect, _ => by
    obtain ⟨hidentity, hw⟩ := c.fresh w w' h
    simp only [Behaviour.react, World.newArray, hidentity]
    exact .ok (c.array _ arguments harguments) hw
  | .firstArgument, _ => by
    refine .ok ?_ h
    cases arguments with
    | nil => exact c.plain _ (by simp [Value.typeName])
    | cons v rest => exact harguments v List.mem_cons_self
  | .countArguments, _ => .ok (c.plain _ (by simp [Value.typeName])) h
  | .report tag, _ => .of_match (c.receive w w' _ h) fun v => c.received w w' _ v h
  | .fail fault, _ => .error fault h
  | .inTurn vs, hb =>
    hi.inTurn (c.inTurn vs hb) harguments (c.plain _ (by simp [Value.typeName])) h
  | .callEntry bridge key, _ => hi.callEntry bridge key harguments h
  | .writeEntry bridge key f, hb => by
    obtain ⟨hreplaced, hw⟩ := c.register w w' bridge key f hb h
    simp only [Behaviour.react, hreplaced]
    exact .ok (c.plain _ (by simp [Value.typeName])) hw
  | .removeEntry bridge key, _ => by
    obtain ⟨hremoved, hw⟩ := c.unregister w w' bridge key h
    simp only [Behaviour.react, hremoved]
    exact .ok (c.plain _ (by simp [Value.typeName])) hw
  | .exactly name count b, hb => by
    simp only [Behaviour.react]
    split
    · exact react hi harguments h b (c.exactly name count b hb)
    · exact .error _ h
  | .write sink, hb =>
    (hi.write hb arguments h).map fun _ _ => c.plain _ (by simp [Value.typeName])
  | .relay transport operation, hb => hi.perform hb harguments h

end Keeps

/-- However deep a call may go, coupled worlds answer it alike and stay coupled. -/
theorem invoke (c : Coupling) (depth : Nat) : c.Keeps (Callable.invoke depth) := by
  induction depth with
  | zero => exact fun _ _ _ _ _ _ _ => .unfinished
  | succ depth ih => exact fun f _ _ _ hf harguments h => ih.react harguments h f.behaviour hf

end Coupling

/-! ## Invariants -/

/-- Nothing that a call can do takes the property away from a world, and the behaviours that may
come up lead to such behaviours only. -/
structure World.Invariant (P : World → Prop) (behaviours : Behaviour → Prop) : Prop where
  inTurn : ∀ vs, behaviours (.inTurn vs) → ∀ f, .function f ∈ vs → behaviours f.behaviour
  exactly : ∀ name count b, behaviours (.exactly name count b) → behaviours b
  fresh : ∀ w, P w → P w.fresh.2
  receive : ∀ w call, P w → P (w.receive call).2
  resolved : ∀ w bridge key f, P w → (w.bridges bridge).resolve key = some f →
    behaviours f.behaviour
  register : ∀ w bridge key f, behaviours (.writeEntry bridge key f) → P w →
    P (w.register bridge key f).2
  unregister : ∀ w bridge key, P w → P (w.unregister bridge key).2
  handled : ∀ w transport operation f, P w →
    (w.transports transport).handler operation = some (.function f) → behaviours f.behaviour
  loseLine : ∀ w sink, behaviours (.write sink) → P w → P (w.loseLine sink.logger)

namespace World.Invariant

variable {P : World → Prop} {behaviours : Behaviour → Prop}

/-- Two worlds that are one and have the property. -/
def coupling (h : World.Invariant P behaviours) : Coupling where
  worlds w w' := w = w' ∧ P w
  behaviours := behaviours
  values _ := True
  plain _ _ := trivial
  array _ _ _ := trivial
  constant _ _ := trivial
  inTurn := h.inTurn
  exactly := h.exactly
  fresh := by
    rintro w _ ⟨rfl, hw⟩
    exact ⟨rfl, rfl, h.fresh w hw⟩
  receive := by
    rintro w _ call ⟨rfl, hw⟩
    exact ⟨rfl, rfl, h.receive w call hw⟩
  received _ _ _ _ _ _ := trivial
  resolve := by
    rintro w _ bridge key ⟨rfl, -⟩
    rfl
  resolved w _ bridge key f hw := h.resolved w bridge key f hw.2
  register := by
    rintro w _ bridge key f hf ⟨rfl, hw⟩
    exact ⟨rfl, rfl, h.register w bridge key f hf hw⟩
  unregister := by
    rintro w _ bridge key ⟨rfl, hw⟩
    exact ⟨rfl, rfl, h.unregister w bridge key hw⟩
  handler := by
    rintro w _ transport operation - ⟨rfl, -⟩
    rfl
  handled w _ transport operation f _ hw := h.handled w transport operation f hw.2
  loseLine := by
    rintro w _ sink hb ⟨rfl, hw⟩
    exact ⟨rfl, h.loseLine w sink hb hw⟩

theorem invoke (h : World.Invariant P behaviours) {depth : Nat} {f : Callable}
    {arguments : List Value} {w w' : World} {r : Except Fault Value}
    (hf : behaviours f.behaviour) (hw : P w)
    (hcall : Callable.invoke depth f arguments w = some (r, w')) : P w' := by
  have hends := h.coupling.invoke depth f arguments w w hf (fun _ _ => trivial) ⟨rfl, hw⟩
  rw [hcall] at hends
  cases hends with
  | finished _ hw' => exact hw'.2

end World.Invariant

end CapabilityGateway
