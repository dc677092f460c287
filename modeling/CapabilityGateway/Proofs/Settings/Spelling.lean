import CapabilityGateway.Proofs.Settings.Layers
import CapabilityGateway.Proofs.Text.LowerCase

/-!
# How settings can be spelled

A console mode and a switch are compared in lower case, and lower-casing knows all of Unicode. Still
there is no other way to spell them than in ASCII: the words of the modes and of the switches have
no letter that a character beyond ASCII could stand in for. Around a mode there may be blanks of
every kind, around the word of a switch there may be none.

* `Text.trim_eq`: what is between the blanks.
* `ConsoleMode.ofText?_eq_some_iff`, `isSwitchedOn_iff`: what the texts are that are accepted.
* `GatewaySettings.spelled_in_ascii`: the modes and switches of files and of the environment.
-/

namespace CapabilityGateway

namespace Text

/-- The text is the word, whatever the case of its letters in ASCII. -/
def Spells (word : String) (s : List Char) : Prop := s.map Char.toLower = word.toList

instance (word : String) (s : List Char) : Decidable (Spells word s) :=
  inferInstanceAs (Decidable (s.map Char.toLower = word.toList))

/-! ## Blanks -/

theorem dropWhile_append_blanks {blanks s : List Char} (hblanks : ∀ c ∈ blanks, isBlank c = true) :
    (blanks ++ s).dropWhile isBlank = s.dropWhile isBlank :=
  List.dropWhile_append_of_pos hblanks

theorem dropWhile_of_no_blank {s : List Char} (hs : ∀ c ∈ s, isBlank c = false) (t : List Char)
    (hne : s ≠ []) : (s ++ t).dropWhile isBlank = s ++ t := by
  cases s with
  | nil => exact absurd rfl hne
  | cons c s =>
    rw [List.cons_append, List.dropWhile_cons_of_neg]
    simp [hs c List.mem_cons_self]

/-- A text without blanks is what is left of it between blanks. -/
theorem trim_eq {before core after : List Char} (hbefore : ∀ c ∈ before, isBlank c = true)
    (hafter : ∀ c ∈ after, isBlank c = true) (hcore : ∀ c ∈ core, isBlank c = false)
    (hne : core ≠ []) : trim (before ++ core ++ after) = core := by
  have hback : (core ++ after).reverse.dropWhile isBlank = core.reverse := by
    rw [List.reverse_append, dropWhile_append_blanks (by simpa using hafter)]
    have hkept := dropWhile_of_no_blank (s := core.reverse) (by simpa using hcore) [] (by simpa)
    simpa using hkept
  rw [trim, List.append_assoc, dropWhile_append_blanks hbefore,
    dropWhile_of_no_blank hcore after hne, hback, List.reverse_reverse]

/-- Trimming takes blanks away at both ends, and nothing else. -/
theorem exists_blanks_trim (s : List Char) :
    ∃ before after, s = before ++ trim s ++ after ∧ (∀ c ∈ before, isBlank c = true) ∧
      ∀ c ∈ after, isBlank c = true := by
  refine ⟨s.takeWhile isBlank, ((s.dropWhile isBlank).reverse.takeWhile isBlank).reverse, ?_, ?_,
    ?_⟩
  · have hback :=
      List.takeWhile_append_dropWhile (p := isBlank) (l := (s.dropWhile isBlank).reverse)
    have hfront := congrArg List.reverse hback
    rw [List.reverse_append, List.reverse_reverse] at hfront
    rw [List.append_assoc, trim, hfront, List.takeWhile_append_dropWhile]
  · exact List.all_eq_true.mp List.all_takeWhile
  · exact fun c hc => List.all_eq_true.mp List.all_takeWhile c (List.mem_reverse.mp hc)

/-! ## Letters -/

/-- Every character of a spelling is a letter or digit of ASCII, if the word has only such. -/
theorem Spells.isAlphanum {word : String} (hword : ∀ d ∈ word.toList, isUnmistakable d = true)
    {s : List Char} (h : Spells word s) : ∀ c ∈ s, c.isAlphanum = true := by
  intro c hc
  have hlower : isUnmistakable c.toLower = true :=
    hword _ (h ▸ List.mem_map_of_mem hc)
  have hascii : c.toNat < 0x80 := by
    refine Nat.lt_of_not_le fun hlarge => ?_
    rw [toLower_eq_self hlarge, isUnmistakable_of_le hlarge] at hlower
    cases hlower
  exact forall_ascii (P := fun c => isUnmistakable c.toLower = true → c.isAlphanum = true)
    (by decide +kernel) hascii hlower

theorem isBlank_of_isAlphanum {c : Char} (h : c.isAlphanum = true) : isBlank c = false :=
  forall_ascii (P := fun c => c.isAlphanum = true → isBlank c = false) (by decide +kernel)
    (toNat_lt_of_isAlphanum h) h

end Text

/-! ## Modes -/

namespace ConsoleMode

/-- The text is the word of the mode, whatever the case of its letters in ASCII, with blanks before
and after it. -/
def WrittenAs (mode : ConsoleMode) (s : String) : Prop :=
  ∃ before core after, s.toList = before ++ core ++ after ∧
    (∀ c ∈ before, Text.isBlank c = true) ∧ (∀ c ∈ after, Text.isBlank c = true) ∧
    Text.Spells mode.word core

theorem unmistakable_word (mode : ConsoleMode) :
    ∀ d ∈ mode.word.toList, Text.isUnmistakable d = true := by
  refine List.all_eq_true.mp ?_
  cases mode <;> decide

theorem ofText?_eq_some_iff_normalized {s : String} {mode : ConsoleMode} :
    ofText? s = some mode ↔ normalized s = mode.word := by
  unfold ofText?
  cases mode with
  | discard => split <;> simp_all [word]
  | forward =>
    split
    next h => simp [h, word]
    next => split <;> simp_all [word]

theorem ofText?_eq_some_iff {s : String} {mode : ConsoleMode} :
    ofText? s = some mode ↔ mode.WrittenAs s := by
  have hspells : ofText? s = some mode ↔ Text.Spells mode.word (Text.trim s.toList) := by
    rw [ofText?_eq_some_iff_normalized, normalized, Text.Spells,
      ← Text.lower_eq_iff mode.unmistakable_word, ← String.toList_inj, String.toList_ofList]
  rw [hspells]
  constructor
  · intro h
    obtain ⟨before, after, hs, hbefore, hafter⟩ := Text.exists_blanks_trim s.toList
    exact ⟨before, _, after, hs, hbefore, hafter, h⟩
  · rintro ⟨before, core, after, hs, hbefore, hafter, hcore⟩
    have hne : core ≠ [] := by
      rintro rfl
      cases mode <;> cases hcore
    have hblank : ∀ c ∈ core, Text.isBlank c = false := fun c hc =>
      Text.isBlank_of_isAlphanum (hcore.isAlphanum mode.unmistakable_word c hc)
    rwa [hs, Text.trim_eq hbefore hafter hblank hne]

end ConsoleMode

/-! ## Switches -/

/-- The words that switch something on. -/
def switchWords : List String := ["true", "1", "yes"]

theorem unmistakable_switchWord {word : String} (h : word ∈ switchWords) :
    ∀ d ∈ word.toList, Text.isUnmistakable d = true := by
  have hall : ∀ word ∈ switchWords, word.toList.all Text.isUnmistakable = true := by decide
  exact List.all_eq_true.mp (hall word h)

theorem isSwitchedOn_iff {s : String} :
    isSwitchedOn s = true ↔ ∃ word ∈ switchWords, Text.Spells word s.toList := by
  rw [isSwitchedOn, List.contains_iff_mem]
  constructor
  · intro h
    refine ⟨_, h, ?_⟩
    rw [Text.Spells, ← Text.lower_eq_iff (unmistakable_switchWord h), String.toList_ofList]
  · rintro ⟨word, hword, hspells⟩
    rw [Text.Spells, ← Text.lower_eq_iff (unmistakable_switchWord hword)] at hspells
    rw [hspells, String.ofList_toList]
    exact hword

/-! ## Settings -/

namespace GatewaySettings

theorem validate_of_unreadable {g : GatewaySettings} {s : String} (hmode : g.modeText? = some s)
    (hs : ConsoleMode.ofText? s = none) :
    g.validate = .error (.invalidMode (ConsoleMode.normalized s)) := by
  simp [validate, hmode, hs]

theorem withEnvironment_of_unreadable {env : Environment} {s : String}
    (hmode : env.text? .console = some s) (hs : ConsoleMode.ofText? s = none)
    (g : GatewaySettings) :
    g.withEnvironment env = .error (.invalidMode (ConsoleMode.normalized s)) := by
  refine withEnvironment_of_fault ?_ g
  simp [Environment.fault?, hmode, hs]

/-- A switch of the environment is stored as what it says. -/
theorem switches_of_withEnvironment {env : Environment} {g h : GatewaySettings}
    (hok : g.withEnvironment env = .ok h) {s : String} :
    (env.text? .network = some s → h.network? = some (isSwitchedOn s)) ∧
      (env.text? .audit = some s → h.audit? = some (isSwitchedOn s)) := by
  cases henv : env.fault? with
  | some e =>
    rw [withEnvironment_of_fault henv] at hok
    cases hok
  | none =>
    rw [withEnvironment_eq_merge henv] at hok
    cases hok
    constructor
    · intro hs
      rw [network?_merge, network?, Layer.settings, Environment.layer, hs]
      rfl
    · intro hs
      rw [audit?_merge, audit?, Layer.settings, Environment.layer, hs]
      rfl

/-- The spellings of modes and switches. A text names a mode just if it is the word of the mode up
to the case of ASCII letters, between blanks; otherwise a file and an environment that set it are at
fault. A switch of the environment is on just if it is one of three words up to the case of ASCII
letters, and off otherwise. So there is no character in an accepted text but the blanks around a
mode, and letters and digits of ASCII. -/
theorem spelled_in_ascii :
    (∀ s mode, ConsoleMode.ofText? s = some mode ↔ mode.WrittenAs s) ∧
    (∀ s, (∀ mode : ConsoleMode, ¬ mode.WrittenAs s) →
      (∀ g : GatewaySettings, g.modeText? = some s →
        g.validate = .error (.invalidMode (ConsoleMode.normalized s))) ∧
      ∀ (env : Environment) (g : GatewaySettings), env.text? .console = some s →
        g.withEnvironment env = .error (.invalidMode (ConsoleMode.normalized s))) ∧
    (∀ (env : Environment) (g h : GatewaySettings) (s : String), g.withEnvironment env = .ok h →
      (env.text? .network = some s → ∃ on, h.network? = some on ∧
        (on = true ↔ ∃ word ∈ switchWords, Text.Spells word s.toList)) ∧
      (env.text? .audit = some s → ∃ on, h.audit? = some on ∧
        (on = true ↔ ∃ word ∈ switchWords, Text.Spells word s.toList))) ∧
    ∀ s : String,
      ((ConsoleMode.ofText? s).isSome → ∀ c ∈ s.toList, Text.isBlank c = true ∨ c.isAlphanum) ∧
      (isSwitchedOn s = true → ∀ c ∈ s.toList, c.isAlphanum) := by
  refine ⟨fun s mode => ConsoleMode.ofText?_eq_some_iff, fun s hnone => ?_, fun env g h s hok => ?_,
    fun s => ⟨fun hmode => ?_, fun hon => ?_⟩⟩
  · have hs : ConsoleMode.ofText? s = none :=
      Option.eq_none_iff_forall_ne_some.mpr fun mode hmode =>
        hnone mode (ConsoleMode.ofText?_eq_some_iff.mp hmode)
    exact ⟨fun g hg => validate_of_unreadable hg hs,
      fun env g henv => withEnvironment_of_unreadable henv hs g⟩
  · obtain ⟨hnetwork, haudit⟩ := switches_of_withEnvironment hok (s := s)
    exact ⟨fun hs => ⟨_, hnetwork hs, isSwitchedOn_iff⟩, fun hs => ⟨_, haudit hs, isSwitchedOn_iff⟩⟩
  · obtain ⟨mode, hmode⟩ := Option.isSome_iff_exists.mp hmode
    obtain ⟨before, core, after, hs, hbefore, hafter, hcore⟩ :=
      ConsoleMode.ofText?_eq_some_iff.mp hmode
    rw [hs, List.append_assoc]
    refine List.forall_mem_append.mpr ⟨fun c hc => .inl (hbefore c hc),
      List.forall_mem_append.mpr ⟨fun c hc => .inr ?_, fun c hc => .inl (hafter c hc)⟩⟩
    exact hcore.isAlphanum mode.unmistakable_word c hc
  · obtain ⟨word, hword, hspells⟩ := isSwitchedOn_iff.mp hon
    exact hspells.isAlphanum (unmistakable_switchWord hword)

/-- A mode in mixed case between a blank beyond ASCII and a line break is accepted, one with a dot
above its capital I is not, although its lower case has an `i` there. A switch in mixed case is on,
one with a blank after it is off. -/
theorem spelled_in_ascii_dotted :
    let env : Environment :=
      ⟨fun | .network => some (.text "yEs") | .audit => some (.text "true ") | _ => none, none⟩
    let dotted : GatewaySettings := ⟨some ⟨some "D\u0130SCARD"⟩, none, none⟩
    ConsoleMode.ofText? "\u3000FoRwArD\n" = some .forward ∧
      dotted.validate = .error (.invalidMode "di\u0307scard") ∧
      ∃ h, empty.withEnvironment env = .ok h ∧ h.network? = some true ∧ h.audit? = some false := by
  intro env dotted
  obtain ⟨hmode, hnone, hswitch, -⟩ := spelled_in_ascii
  have hdotted : ConsoleMode.ofText? "D\u0130SCARD" = none := by decide +kernel
  have hunwritten : ∀ mode : ConsoleMode, ¬ mode.WrittenAs "D\u0130SCARD" := by
    intro mode h
    rw [← hmode, hdotted] at h
    cases h
  have hgot : ConsoleMode.normalized "D\u0130SCARD" = "di\u0307scard" := by decide +kernel
  have hok : empty.withEnvironment env =
      .ok ⟨none, some ⟨some (isSwitchedOn "yEs")⟩, some ⟨some (isSwitchedOn "true ")⟩⟩ := rfl
  obtain ⟨on, hnetwork, hyes⟩ := (hswitch env empty _ "yEs" hok).1 rfl
  obtain ⟨off, haudit, htrue⟩ := (hswitch env empty _ "true " hok).2 rfl
  have hon : on = true := hyes.mpr (by decide)
  have hoff : off = false := by
    rw [Bool.eq_false_iff, Ne, htrue]
    decide
  refine ⟨(hmode _ _).mpr ⟨['\u3000'], "FoRwArD".toList, ['\n'], ?_⟩, ?_, _, hok, ?_, ?_⟩
  · exact ⟨by decide, List.forall_mem_singleton.mpr (by decide),
      List.forall_mem_singleton.mpr (by decide), by decide⟩
  · exact hgot ▸ (hnone _ hunwritten).1 dotted rfl
  · rw [hnetwork, hon]
  · rw [haudit, hoff]

end GatewaySettings

end CapabilityGateway
