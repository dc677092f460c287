import CapabilityGateway.Proofs.Settings.Layers
import CapabilityGateway.Proofs.Toml.Keys
import Mathlib.Data.List.Nodup

/-!
# What a settings file may contain

A settings file that loads is, up to the order of its sections, the settings themselves written out
as a document. So it has no section, no key and no value that the settings do not have, at any
depth, and the settings have nothing that it does not say.

There is one way to write a section otherwise: as an array, whose first element stands for the
field. What else is in the array is ignored. `Toml.Value.asSection` is how such a section is read,
and everything that is ignored in a settings file is what it drops.

* `GatewaySettings.document`: the document of settings.
* `GatewaySettings.readEntries_eq_ok_iff`: how settings are read, section by section.
* `GatewaySettings.load_eq_ok_iff`: which files load, and as what.
-/

namespace CapabilityGateway

open Dictionary

/-! ## Settings as a document -/

namespace SectionName

theorem ofKey?_key (name : SectionName) : ofKey? name.key = some name := by
  cases name <;> decide

theorem eq_key {key : String} {name : SectionName} (h : ofKey? key = some name) :
    key = name.key := by
  unfold ofKey? at h
  split at h
  next hkey =>
    cases h
    exact hkey
  next =>
    split at h
    next hkey =>
      cases h
      exact hkey
    next =>
      split at h
      next hkey =>
        cases h
        exact hkey
      next => cases h

theorem key_injective {a b : SectionName} (h : a.key = b.key) : a = b := by
  have hread := ofKey?_key a
  rw [h, ofKey?_key] at hread
  exact (Option.some.inj hread).symm

/-- A section that sets its field, or not. -/
def table (name : SectionName) (field : Option Toml.Value) : Toml.Value :=
  .table (field.map fun v => (name.field, v)).toList

/-- The value as a section: an array stands for the table with its first element as the field. -/
def asSection (name : SectionName) : Toml.Value → Toml.Value
  | .array (v :: _) => name.table (some v)
  | v => v

end SectionName

namespace GatewaySettings

/-- The section as a document has it, if the settings have it. -/
def section? (g : GatewaySettings) : SectionName → Option Toml.Value
  | .console => g.console.map fun s => SectionName.console.table (s.mode.map .string)
  | .network => g.network.map fun s => SectionName.network.table (s.enabled.map .boolean)
  | .audit => g.audit.map fun s => SectionName.audit.table (s.enabled.map .boolean)

/-- The settings written out. -/
def document (g : GatewaySettings) : Toml.Table :=
  [SectionName.console, .network, .audit].filterMap fun name => (g.section? name).map (name.key, ·)

/-- The entry of a document, read as a section if its key is that of one. -/
def asSection (e : String × Toml.Value) : String × Toml.Value :=
  match SectionName.ofKey? e.1 with
  | some name => (e.1, name.asSection e.2)
  | none => e

theorem table_injective {α : Type} {spell : α → Toml.Value} (hspell : spell.Injective)
    (name : SectionName) {a b : Option α}
    (h : name.table (a.map spell) = name.table (b.map spell)) : a = b := by
  cases a with
  | none =>
    cases b with
    | none => rfl
    | some b => cases h
  | some a =>
    cases b with
    | none => cases h
    | some b =>
      simp only [SectionName.table, Option.map_some, Option.toList_some, Toml.Value.table.injEq,
        List.cons.injEq, Prod.mk.injEq, true_and, and_true] at h
      rw [hspell h]

theorem eq_of_section? {g g' : GatewaySettings} (h : ∀ name, g.section? name = g'.section? name) :
    g = g' := by
  have htext : Toml.Value.string.Injective := fun _ _ h => Toml.Value.string.inj h
  have htruth : Toml.Value.boolean.Injective := fun _ _ h => Toml.Value.boolean.inj h
  have hconsole : g.console = g'.console :=
    Option.map_injective
      (fun _ _ hs => congrArg ConsoleSection.mk (table_injective htext .console hs)) (h .console)
  have hnetwork : g.network = g'.network :=
    Option.map_injective
      (fun _ _ hs => congrArg SwitchSection.mk (table_injective htruth .network hs)) (h .network)
  have haudit : g.audit = g'.audit :=
    Option.map_injective
      (fun _ _ hs => congrArg SwitchSection.mk (table_injective htruth .audit hs)) (h .audit)
  cases g
  cases g'
  cases hconsole
  cases hnetwork
  cases haudit
  rfl

/-! ## Reading a section -/

section

variable {α : Type} {read : Toml.Value → Except Complaint α} {spell : α → Toml.Value}

theorem table_eq_table_iff {name : SectionName} {es : Toml.Table} {field : Option Toml.Value} :
    Toml.Value.table es = name.table field ↔ es = (field.map fun v => (name.field, v)).toList := by
  rw [SectionName.table, Toml.Value.table.injEq]

theorem bind_eq_ok_iff {β : Type} {x : Except Complaint α} {f : α → Except Complaint β} {b : β} :
    (x >>= f) = .ok b ↔ ∃ a, x = .ok a ∧ f a = .ok b := by
  cases x with
  | error e => simp [bind, Except.bind]
  | ok a => simp [bind, Except.bind]

theorem readField_eq_ok_iff (hread : ∀ v a, read v = .ok a ↔ v = spell a) (name : SectionName)
    {es : Toml.Table} (hes : (names es).Nodup) {o : Option α} :
    readField name read es = .ok o ↔ .table es = name.table (o.map spell) := by
  rw [table_eq_table_iff]
  match es with
  | [] => cases o <;> simp [readField]
  | [(key, v)] =>
    by_cases hkey : key = name.field
    · simp only [readField, if_pos hkey, bind_eq_ok_iff, hread]
      cases o with
      | none => simp [pure, Except.pure]
      | some a =>
        simp [pure, Except.pure, hkey]
    · cases o with
      | none => simp [readField, hkey]
      | some a => simp [readField, hkey]
  | (key, v) :: (key', v') :: rest =>
    -- Not both keys are the field.
    have hne : key' = name.field → key ≠ name.field := by
      rintro rfl rfl
      simp at hes
    have hlong : (key, v) :: (key', v') :: rest ≠
        ((o.map spell).map fun v => (name.field, v)).toList := by
      cases o <;> simp
    refine iff_of_false (fun h => ?_) hlong
    by_cases hkey : key = name.field
    · have hkey' : key' ≠ name.field := fun h' => hne h' hkey
      simp [readField, hkey, hkey', bind_eq_ok_iff] at h
    · simp [readField, hkey] at h

theorem readSection_eq_ok_iff (hread : ∀ v a, read v = .ok a ↔ v = spell a) (name : SectionName)
    {v : Toml.Value} (hv : v.Keyed) {o : Option α} :
    readSection name read v = .ok o ↔ name.asSection v = name.table (o.map spell) := by
  cases hv with
  | table nodup _ => exact readField_eq_ok_iff hread name nodup
  | @array vs _ =>
    cases vs with
    | nil => simp [readSection, SectionName.asSection, SectionName.table]
    | cons v rest =>
      have hfirst : readSection name read (.array (v :: rest)) = .ok o ↔
          ∃ a, read v = .ok a ∧ some a = o := by
        rw [readSection]
        cases read v <;> simp
      rw [hfirst, SectionName.asSection, SectionName.table, table_eq_table_iff]
      cases o <;> simp [hread]
  | scalar h =>
    cases v with
    | array _ => cases h
    | table _ => cases h
    | _ => simp [readSection, SectionName.asSection, SectionName.table]

/-- What it takes to read one section: `set` puts it into the settings `g`. -/
theorem set_section_eq_ok_iff (hread : ∀ v a, read v = .ok a ↔ v = spell a) {name : SectionName}
    {v : Toml.Value} (hv : v.Keyed) {g g' : GatewaySettings} {set : Option α → GatewaySettings}
    (hset : ∀ o, (set o).section? name = some (name.table (o.map spell)))
    (hothers : ∀ o other, other ≠ name → (set o).section? other = g.section? other)
    (hsection : ∀ u, g'.section? name = some u → ∃ o : Option α, u = name.table (o.map spell)) :
    (do return set (← readSection name read v)) = .ok g' ↔
      g'.section? name = some (name.asSection v) ∧
        ∀ other, other ≠ name → g'.section? other = g.section? other := by
  rw [bind_eq_ok_iff]
  constructor
  · rintro ⟨o, ho, h⟩
    cases h
    rw [(readSection_eq_ok_iff hread name hv).mp ho]
    exact ⟨hset o, hothers o⟩
  · rintro ⟨hname, hrest⟩
    obtain ⟨o, ho⟩ := hsection _ hname
    refine ⟨o, (readSection_eq_ok_iff hread name hv).mpr ho, congrArg Except.ok ?_⟩
    refine eq_of_section? fun other => ?_
    by_cases hother : other = name
    · rw [hother, hset, hname, ho]
    · rw [hothers o other hother, hrest other hother]

end

theorem readText_eq_ok_iff (v : Toml.Value) (s : String) : readText v = .ok s ↔ v = .string s := by
  cases v <;> simp [readText]

theorem readTruth_eq_ok_iff (v : Toml.Value) (b : Bool) : readTruth v = .ok b ↔ v = .boolean b := by
  cases v <;> simp [readTruth]

/-! ## Reading a document -/

/-- An entry is read if it is a section that sets at most its field. The settings then have that
section, and otherwise what they had before. -/
theorem readEntry_eq_ok_iff {g g' : GatewaySettings} {key : String} {v : Toml.Value}
    (hv : v.Keyed) :
    g.readEntry key v = .ok g' ↔
      ∃ name, SectionName.ofKey? key = some name ∧ g'.section? name = some (name.asSection v) ∧
        ∀ other, other ≠ name → g'.section? other = g.section? other := by
  have hothers : ∀ {a b : GatewaySettings} {name : SectionName},
      (name ≠ .console → a.console = b.console) → (name ≠ .network → a.network = b.network) →
      (name ≠ .audit → a.audit = b.audit) →
      ∀ other, other ≠ name → a.section? other = b.section? other := by
    intro a b name hconsole hnetwork haudit other hother
    cases other with
    | console => rw [section?, section?, hconsole hother.symm]
    | network => rw [section?, section?, hnetwork hother.symm]
    | audit => rw [section?, section?, haudit hother.symm]
  rw [readEntry]
  cases hkey : SectionName.ofKey? key with
  | none => simp
  | some name =>
    simp only [Option.some.injEq, exists_eq_left']
    have hsection : ∀ {σ α : Type} {o : Option σ} {f : σ → Option α} {spell : α → Toml.Value} {u},
        (o.map fun a => name.table ((f a).map spell)) = some u →
        ∃ b : Option α, u = name.table (b.map spell) := by
      intro σ α o f spell u h
      obtain ⟨a, -, rfl⟩ := Option.map_eq_some_iff.mp h
      exact ⟨_, rfl⟩
    cases name with
    | console =>
      exact set_section_eq_ok_iff readText_eq_ok_iff hv (fun _ => rfl)
        (fun _ => hothers (absurd rfl) (fun _ => rfl) fun _ => rfl) fun _ => hsection
    | network =>
      exact set_section_eq_ok_iff readTruth_eq_ok_iff hv (fun _ => rfl)
        (fun _ => hothers (fun _ => rfl) (absurd rfl) fun _ => rfl) fun _ => hsection
    | audit =>
      exact set_section_eq_ok_iff readTruth_eq_ok_iff hv (fun _ => rfl)
        (fun _ => hothers (fun _ => rfl) (fun _ => rfl) (absurd rfl)) fun _ => hsection

/-- The settings with one section as in other settings. -/
theorem exists_section (g g' : GatewaySettings) (name : SectionName) :
    ∃ g₁ : GatewaySettings, g₁.section? name = g'.section? name ∧
      ∀ other, other ≠ name → g₁.section? other = g.section? other := by
  cases name with
  | console =>
    refine ⟨{ g with console := g'.console }, rfl, fun other hother => ?_⟩
    cases other <;> first | rfl | exact absurd rfl hother
  | network =>
    refine ⟨{ g with network := g'.network }, rfl, fun other hother => ?_⟩
    cases other <;> first | rfl | exact absurd rfl hother
  | audit =>
    refine ⟨{ g with audit := g'.audit }, rfl, fun other hother => ?_⟩
    cases other <;> first | rfl | exact absurd rfl hother

/-- All entries are read if all are sections, and the settings then have the sections of the entries
and otherwise what they had before. -/
theorem readEntries_eq_ok_iff {g g' : GatewaySettings} {es : Toml.Table} (hes : (names es).Nodup)
    (hkeyed : ∀ e ∈ es, e.2.Keyed) :
    g.readEntries es = .ok g' ↔
      (∀ e ∈ es, (SectionName.ofKey? e.1).isSome) ∧
        ∀ name, g'.section? name =
          ((get? name.key es).map name.asSection).or (g.section? name) := by
  induction es generalizing g with
  | nil =>
    constructor
    · intro h
      cases h
      exact ⟨by simp, fun _ => rfl⟩
    · rintro ⟨-, h⟩
      exact congrArg Except.ok (eq_of_section? fun name => (h name).symm)
  | cons e rest ih =>
    obtain ⟨key, v⟩ := e
    obtain ⟨hfresh, hrest⟩ := List.nodup_cons.mp hes
    obtain ⟨hv, hkeyedRest⟩ := List.forall_mem_cons.mp hkeyed
    have hreads : g.readEntries ((key, v) :: rest) = .ok g' ↔
        ∃ g₁, g.readEntry key v = .ok g₁ ∧ g₁.readEntries rest = .ok g' := bind_eq_ok_iff
    rw [hreads]
    constructor
    · rintro ⟨g₁, hfirst, hlater⟩
      obtain ⟨name, hname, hsection, hothers⟩ := (readEntry_eq_ok_iff hv).mp hfirst
      obtain ⟨hsections, hlater⟩ := (ih hrest hkeyedRest).mp hlater
      obtain rfl := SectionName.eq_key hname
      refine ⟨List.forall_mem_cons.mpr ⟨by simp [hname], hsections⟩, fun other => ?_⟩
      rw [hlater other]
      by_cases hother : other = name
      · subst hother
        rw [get?_eq_none_iff.mpr hfresh, hsection]
        simp [get?]
      · have hne : ¬ name.key = other.key := fun h => hother (SectionName.key_injective h).symm
        rw [hothers other hother, get?, if_neg hne]
    · rintro ⟨hsections, hall⟩
      obtain ⟨hfirst, hlater⟩ := List.forall_mem_cons.mp hsections
      obtain ⟨name, hname⟩ := Option.isSome_iff_exists.mp hfirst
      obtain rfl := SectionName.eq_key hname
      obtain ⟨g₁, hsame, hothers⟩ := exists_section g g' name
      have hname' := hall name
      simp only [get?, if_true, Option.map_some, Option.some_or] at hname'
      refine ⟨g₁, (readEntry_eq_ok_iff hv).mpr ⟨name, hname, hsame.trans hname', hothers⟩, ?_⟩
      refine (ih hrest hkeyedRest).mpr ⟨hlater, fun other => ?_⟩
      by_cases hother : other = name
      · subst hother
        rw [get?_eq_none_iff.mpr hfresh, hsame]
        rfl
      · have hne : ¬ name.key = other.key := fun h => hother (SectionName.key_injective h).symm
        rw [hall other, hothers other hother, get?, if_neg hne]

theorem mem_document_iff {g : GatewaySettings} {name : SectionName} {v : Toml.Value} :
    (name.key, v) ∈ g.document ↔ g.section? name = some v := by
  constructor
  · intro h
    obtain ⟨other, -, hother⟩ := List.mem_filterMap.mp h
    obtain ⟨u, hu, he⟩ := Option.map_eq_some_iff.mp hother
    obtain ⟨hkey, rfl⟩ := Prod.mk.inj he
    rwa [← SectionName.key_injective hkey]
  · intro h
    have hall : name ∈ [SectionName.console, .network, .audit] := by cases name <;> decide
    exact List.mem_filterMap.mpr ⟨name, hall, by rw [h]; rfl⟩

theorem ofKey?_of_mem_document {g : GatewaySettings} {e : String × Toml.Value}
    (he : e ∈ g.document) : (SectionName.ofKey? e.1).isSome := by
  obtain ⟨name, -, hname⟩ := List.mem_filterMap.mp he
  obtain ⟨v, -, rfl⟩ := Option.map_eq_some_iff.mp hname
  rw [SectionName.ofKey?_key]
  rfl

theorem nodup_document (g : GatewaySettings) : g.document.Nodup := by
  refine List.Nodup.filterMap (fun a b e ha hb => ?_) (by decide)
  obtain ⟨u, -, rfl⟩ := Option.map_eq_some_iff.mp (Option.mem_def.mp ha)
  obtain ⟨w, -, hw⟩ := Option.map_eq_some_iff.mp (Option.mem_def.mp hb)
  exact SectionName.key_injective (Prod.mk.inj hw).1.symm

@[simp] theorem asSection_fst (e : String × Toml.Value) : (asSection e).1 = e.1 := by
  rw [asSection]
  split <;> rfl

theorem nodup_asSection {es : Toml.Table} (hes : (names es).Nodup) : (es.map asSection).Nodup := by
  refine List.Nodup.of_map Prod.fst ?_
  have hnames : (es.map asSection).map Prod.fst = names es := by simp [names]
  rwa [hnames]

theorem mem_asSection_iff {es : Toml.Table} (hes : (names es).Nodup) {name : SectionName}
    {v : Toml.Value} :
    (name.key, v) ∈ es.map asSection ↔ (get? name.key es).map name.asSection = some v := by
  have hread : ∀ u, asSection (name.key, u) = (name.key, name.asSection u) := fun u => by
    rw [asSection, SectionName.ofKey?_key]
  rw [List.mem_map, Option.map_eq_some_iff]
  constructor
  · rintro ⟨⟨key, u⟩, hu, he⟩
    have hkey := congrArg Prod.fst he
    rw [asSection_fst] at hkey
    obtain rfl : key = name.key := hkey
    rw [hread] at he
    exact ⟨u, get?_of_mem hes hu, (Prod.mk.inj he).2⟩
  · rintro ⟨u, hu, rfl⟩
    exact ⟨(name.key, u), mem_of_get? hu, hread u⟩

/-- A table is read as settings if it is the document of these settings in some order, up to the
sections that are arrays. -/
theorem readEntries_empty_eq_ok_iff {g : GatewaySettings} {es : Toml.Table}
    (hes : (Toml.Value.table es).Keyed) :
    empty.readEntries es = .ok g ↔ (es.map asSection).Perm g.document := by
  cases hes with
  | scalar h => cases h
  | table nodup hkeyed =>
    rw [readEntries_eq_ok_iff nodup hkeyed,
      List.perm_ext_iff_of_nodup (nodup_asSection nodup) (nodup_document g)]
    have hempty : ∀ name, empty.section? name = none := fun name => by cases name <;> rfl
    simp only [hempty, Option.or_none]
    constructor
    · rintro ⟨hsections, hall⟩ ⟨key, v⟩
      have hsection : (key, v) ∈ es.map asSection → (SectionName.ofKey? key).isSome := fun h => by
        obtain ⟨e, he, hread⟩ := List.mem_map.mp h
        have hkey := congrArg Prod.fst hread
        rw [asSection_fst] at hkey
        obtain rfl : e.1 = key := hkey
        exact hsections e he
      cases hname : SectionName.ofKey? key with
      | none =>
        rw [hname] at hsection
        refine iff_of_false (fun h => Bool.false_ne_true (hsection h)) fun h => ?_
        have hsome := ofKey?_of_mem_document h
        rw [hname] at hsome
        cases hsome
      | some name =>
        obtain rfl := SectionName.eq_key hname
        rw [mem_asSection_iff nodup, mem_document_iff, hall]
    · intro hmem
      refine ⟨fun e he => ?_, fun name => Option.ext fun v => ?_⟩
      · have hsome := ofKey?_of_mem_document ((hmem _).mp (List.mem_map_of_mem he))
        rwa [asSection_fst] at hsome
      · rw [← mem_document_iff, ← hmem, mem_asSection_iff nodup]

theorem ofToml_eq_ok_iff {text : String} {g : GatewaySettings} :
    ofToml text = .ok g ↔
      ∃ table, Toml.parse? text = some table ∧ (table.map asSection).Perm g.document := by
  rw [ofToml]
  cases hparse : Toml.parse? text with
  | none => simp
  | some table => simp [readEntries_empty_eq_ok_iff (Toml.keyed_of_parse? hparse)]

/-- The files that load, and as what. The text of the file is the document of the settings, in some
order and with sections that may be written as arrays, and the mode that it sets is one. -/
theorem load_eq_ok_iff {files : FileTree} {file : Path} {g : GatewaySettings} :
    load files file = .ok g ↔
      ∃ text table, files.readText file = .ok text ∧ Toml.parse? text = some table ∧
        (table.map asSection).Perm g.document ∧ g.Valid := by
  constructor
  · intro h
    have hvalid := valid_of_load h
    rw [load] at h
    cases hread : files.readText file with
    | error failure =>
      rw [hread] at h
      cases failure <;> cases h
    | ok text =>
      rw [hread] at h
      cases htoml : ofToml text with
      | error complaint =>
        simp only [htoml] at h
        cases h
      | ok g' =>
        simp only [htoml] at h
        cases hvalidate : g'.validate with
        | error e =>
          rw [hvalidate] at h
          cases h
        | ok u =>
          rw [hvalidate] at h
          cases h
          obtain ⟨table, hparse, hperm⟩ := ofToml_eq_ok_iff.mp htoml
          exact ⟨text, table, rfl, hparse, hperm, hvalid⟩
  · rintro ⟨text, table, hread, hparse, hperm, hvalid⟩
    have htoml : ofToml text = .ok g := ofToml_eq_ok_iff.mpr ⟨table, hparse, hperm⟩
    simp only [load, hread, htoml, validate_of_valid hvalid]
    rfl

/-- The second element of an array that stands for a section is ignored. -/
theorem load_ignores_element :
    let load := fun text : String =>
      load ((FileTree.empty []).write ⟨"/capgate.toml"⟩ text.toUTF8) ⟨"/capgate.toml"⟩
    (load "console = [\"forward\", 3]\n").toOption = some ⟨some ⟨some "forward"⟩, none, none⟩ ∧
      (load "console = [\"forward\"]\n").toOption = some ⟨some ⟨some "forward"⟩, none, none⟩ := by
  decide +kernel

end GatewaySettings

end CapabilityGateway
