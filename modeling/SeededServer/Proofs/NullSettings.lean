import SeededServer.Proofs.SettingsFiles
import SeededServer.Proofs.Shadowing

/-!
# Null settings

A setting that the file leaves empty is null. For most settings that is as good as leaving them out:
null does not count as true, it is no list, and it is no image tag. But a database, a password and a
port are converted from whatever the file has, and a time to wait is taken as it is, so there a null
counts as a value of its own.

## Main definitions

* `ConfigFile.without` — settings without those of one name.
* `Resolution.nullCounts` — the settings for which a null of the file counts as a value.
* `Resolution.NullTaken` — what such a null makes of the options.
-/
namespace SeededServer

namespace ConfigFile

/-- The settings without those of the given name. -/
def without (key : String) (settings : Settings) : Settings :=
  settings.filter fun entry => entry.1 ≠ key

variable {key wanted : String} {settings : Settings}

theorem get?_without : Entries.get? (without key settings) wanted =
    if wanted = key then none else Entries.get? settings wanted := by
  have h := Entries.get?_filter (fun name => decide (name ≠ key)) settings wanted
  by_cases hkey : wanted = key <;> simpa [without, hkey] using h

/-- What is accepted is accepted without one of its settings, too. -/
theorem ofEntries_without (h : ofEntries settings = .ok settings) :
    ofEntries (without key settings) = .ok (without key settings) := by
  obtain ⟨hunknown, hmisshapen, -⟩ := ofEntries_eq_ok_iff.1 h
  refine ofEntries_eq_ok_iff.2 ⟨?_, ?_, rfl⟩
  · have hsupported := unknownKeys_eq_nil_iff.1 hunknown
    exact unknownKeys_eq_nil_iff.2 fun entry hentry =>
      hsupported entry (List.mem_of_mem_filter hentry)
  · rw [List.eq_nil_iff_forall_not_mem] at hmisshapen ⊢
    intro name hname
    obtain ⟨hlist, value, hvalue, hnone⟩ := mem_misshapenKeys.1 hname
    rw [get?_without] at hvalue
    split at hvalue
    · cases hvalue
    · exact hmisshapen name (mem_misshapenKeys.2 ⟨hlist, value, hvalue, hnone⟩)

end ConfigFile

namespace CommandLine.Resolution

open ConfigFile (without get?_without)

variable {args : Arguments} {settings : Settings} {key : String}

/-! ## One setting -/

section Choices

variable {given : Option Value} {wanted : String}

variable (settings) in
theorem choose_without (h : wanted ≠ key) (otherwise : Value) :
    choose given settings wanted otherwise =
      choose given (without key settings) wanted otherwise := by
  cases given <;> simp [choose, get?_without, h]

variable (hnull : Entries.get? settings key = some .null)
include hnull

/-- A null takes the place of the default unless the command line gives a value. -/
theorem choose_null {otherwise : Value} : choose none settings key otherwise = .null ∧
    choose none (without key settings) key otherwise = otherwise := by
  simp [choose, get?_without, hnull]

/-- A null does not matter where null is the default. -/
theorem choose_nullDefault : choose given settings wanted .null =
    choose given (without key settings) wanted .null := by
  by_cases h : wanted = key
  · subst h
    cases given with
    | some value => rfl
    | none => rw [(choose_null hnull).1, (choose_null hnull).2]
  · exact choose_without settings h _

/-- A null does not matter where it is asked whether a value counts as true. -/
theorem choose_truthy : (choose given settings wanted (.bool false)).truthy =
    (choose given (without key settings) wanted (.bool false)).truthy := by
  by_cases h : wanted = key
  · subst h
    cases given with
    | some value => rfl
    | none =>
      rw [(choose_null hnull).1, (choose_null hnull).2]
      rfl
  · rw [choose_without settings h]

theorem chooseList_without {items : List String} :
    chooseList items settings wanted = chooseList items (without key settings) wanted := by
  cases items with
  | cons item rest => rfl
  | nil =>
    by_cases h : wanted = key
    · subst h
      simp [chooseList, get?_without, hnull, Value.truthy]
    · simp [chooseList, get?_without, h]

end Choices

/-! ## All settings -/

/-- The settings for which a null of the file counts as a value. -/
def nullCounts : List String := ["database", "password", "port", "wait_timeout"]

/-- What a null that counts makes of the options: it is converted to a text or taken as it is in
place of the default, or it cannot be converted. -/
inductive NullTaken : String → Except Fault Options → Except Fault Options → Prop
  | database {absent : Except Fault Options} :
      (∀ options, absent = .ok options → options.database = .text "mydb") →
      NullTaken "database" absent (absent.map ({ · with database := .text "None" }))
  | password {absent : Except Fault Options} :
      (∀ options, absent = .ok options → options.password = .text "Gn0m!ck~") →
      NullTaken "password" absent (absent.map ({ · with password := .text "None" }))
  | waitTimeout {absent : Except Fault Options} :
      (∀ options, absent = .ok options → options.waitTimeout = .real 30) →
      NullTaken "wait_timeout" absent (absent.map ({ · with waitTimeout := .null }))
  | port {absent : Except Fault Options} : absent ≠ .error (noInteger .null) →
      NullTaken "port" absent (.error (noInteger .null))
  /-- What is converted before the port fails either way. -/
  | earlier {fault : Fault} : NullTaken "port" (.error fault) (.error fault)

/-- The options for values of the four settings that are converted or taken as they are. -/
def optionsFor (args : Arguments) (settings : Settings)
    (database password port waitTimeout : Value) : Except Fault Options := do
  let database ← toText database
  let password ← toText password
  let port ← toInt port
  let version ← textOrNull (choose (args.version.map .text) settings "version" .null)
  return {
    database
    password
    queries := chooseList args.queries settings "queries"
    queriesFiles := chooseList args.queriesFiles settings "queries_files"
    license := .bool (choose (switch args.acceptEula) settings "license" (.bool false)).truthy
    port := .int port
    version
    waitTimeout }

variable (args settings) in
theorem presetOptions_eq : presetOptions args settings = optionsFor args settings
    (choose (args.database.map .text) settings "database" (.text "mydb"))
    (choose (args.password.map .text) settings "password" (.text "Gn0m!ck~"))
    (choose (args.port.map .int) settings "port" (.int Config.serverPort))
    (choose (args.waitTimeout.map .real) settings "wait_timeout" (.real 30)) := rfl

section OptionsFor

variable {database password port waitTimeout : Value}

theorem optionsFor_without (hnull : Entries.get? settings key = some .null) :
    optionsFor args settings database password port waitTimeout =
      optionsFor args (without key settings) database password port waitTimeout := by
  unfold optionsFor
  rw [choose_nullDefault hnull, choose_truthy hnull, chooseList_without hnull,
    chooseList_without hnull]

theorem of_optionsFor {options : Options}
    (h : optionsFor args settings database password port waitTimeout = .ok options) :
    toText database = .ok options.database ∧ toText password = .ok options.password ∧
      options.waitTimeout = waitTimeout := by
  obtain ⟨_, hdatabase, h⟩ := ok_of_bind h
  obtain ⟨_, hpassword, h⟩ := ok_of_bind h
  obtain ⟨_, -, h⟩ := ok_of_bind h
  obtain ⟨_, -, h⟩ := ok_of_bind h
  cases h
  exact ⟨hdatabase, hpassword, rfl⟩

/-- What is done with a result can be done in its last step. -/
theorem map_of_bind {α β γ : Type} (f : β → γ) (result : Except Fault α) (g : α → Except Fault β) :
    (result >>= g).map f = result >>= fun value => (g value).map f :=
  map_bind f result g

theorem optionsFor_nullDatabase (name : String) :
    optionsFor args settings .null password port waitTimeout =
      (optionsFor args settings (.text name) password port waitTimeout).map
        ({ · with database := .text "None" }) := by
  simp only [optionsFor, map_of_bind]
  rfl

theorem optionsFor_nullPassword (text : String) :
    optionsFor args settings database .null port waitTimeout =
      (optionsFor args settings database (.text text) port waitTimeout).map
        ({ · with password := .text "None" }) := by
  simp only [optionsFor, map_of_bind]
  rfl

variable (waitTimeout) in
theorem optionsFor_nullWaitTimeout :
    optionsFor args settings database password port .null =
      (optionsFor args settings database password port waitTimeout).map
        ({ · with waitTimeout := .null }) := by
  simp only [optionsFor, map_of_bind]
  rfl

theorem textOrNull_ne_noInteger (value : Value) : textOrNull value ≠ .error (noInteger .null) := by
  unfold textOrNull toText Value.display
  split
  · nofun
  · split <;> nofun

/-- A null is no port, but what is converted before the port may fail first. -/
theorem optionsFor_nullPort {n : Int} :
    NullTaken "port" (optionsFor args settings database password (.int n) waitTimeout)
      (optionsFor args settings database password .null waitTimeout) := by
  unfold optionsFor
  cases toText database with
  | error fault => exact .earlier
  | ok database =>
    cases toText password with
    | error fault => exact .earlier
    | ok password =>
      refine .port ?_
      have hversion := textOrNull_ne_noInteger
        (choose (args.version.map .text) settings "version" .null)
      cases htext : textOrNull (choose (args.version.map .text) settings "version" .null) with
      | error fault =>
        rintro ⟨⟩
        exact hversion htext
      | ok version => nofun

end OptionsFor

/-- A change of the options shows, in the value that is changed, unless there are none. -/
theorem map_eq_self_iff {f : Options → Options} {absent : Except Fault Options}
    (field : Options → Value) {default taken : Value}
    (hdefault : ∀ options, absent = .ok options → field options = default)
    (htaken : ∀ options, field (f options) = taken) (hne : taken ≠ default) :
    absent.map f = absent ↔ ∃ fault, absent.map f = .error fault ∧ absent = .error fault := by
  cases absent with
  | error fault => simp [Except.map]
  | ok options =>
    have hchange : f options ≠ options := fun hsame =>
      hne (by rw [← htaken options, hsame, hdefault options rfl])
    simp [Except.map, hchange]

/-- A null that counts makes a difference unless the options fail either way. -/
theorem NullTaken.eq_iff {absent taken : Except Fault Options} (h : NullTaken key absent taken) :
    taken = absent ↔ ∃ fault, taken = .error fault ∧ absent = .error fault := by
  cases h with
  | database hdefault =>
    exact map_eq_self_iff Options.database hdefault (fun _ => rfl) (by simp)
  | password hdefault =>
    exact map_eq_self_iff Options.password hdefault (fun _ => rfl) (by simp)
  | waitTimeout hdefault =>
    exact map_eq_self_iff Options.waitTimeout hdefault (fun _ => rfl) (by simp)
  | port hdiffers =>
    refine ⟨fun heq => absurd heq.symm hdiffers, ?_⟩
    rintro ⟨fault, ⟨⟩, habsent⟩
    exact absurd habsent hdiffers
  | earlier => exact ⟨fun _ => ⟨_, rfl, rfl⟩, fun _ => rfl⟩

section Null

variable (hnull : Entries.get? settings key = some .null)
include hnull

/-- Where a null does not count it is as good as nothing. -/
theorem presetOptions_without (hkey : key ∉ nullCounts) :
    presetOptions args settings = presetOptions args (without key settings) := by
  have hne : ∀ wanted ∈ nullCounts, wanted ≠ key := fun wanted hwanted heq => hkey (heq ▸ hwanted)
  rw [presetOptions_eq, presetOptions_eq, choose_without settings (hne "database" (by decide)),
    choose_without settings (hne "password" (by decide)),
    choose_without settings (hne "port" (by decide)),
    choose_without settings (hne "wait_timeout" (by decide)), optionsFor_without hnull]

/-- All but the options is the same with and without a null. -/
theorem resolve_of_options
    (h : presetOptions args settings = presetOptions args (without key settings)) :
    resolve args settings = resolve args (without key settings) := by
  unfold resolve
  rw [h, choose_truthy hnull, choose_truthy hnull, choose_nullDefault hnull]

theorem presetOptions_nullTaken (hgives : args.gives key = false) (hkey : key ∈ nullCounts) :
    NullTaken key (presetOptions args (without key settings)) (presetOptions args settings) := by
  have hnone {α : Type} {given : Option α} (h : given.isSome = false) : given = none :=
    Option.isNone_iff_eq_none.1 (Option.isSome_eq_false_iff.1 h)
  -- only the setting of the null notices that it is gone
  have hother (wanted : String) (hne : wanted ≠ key) {given : Option Value} {otherwise : Value} :
      choose given settings wanted otherwise =
        choose given (without key settings) wanted otherwise :=
    choose_without settings hne otherwise
  rw [presetOptions_eq args settings, optionsFor_without hnull, presetOptions_eq]
  simp only [nullCounts, List.mem_cons, List.not_mem_nil, or_false] at hkey
  rcases hkey with rfl | rfl | rfl | rfl
  · obtain hdatabase : args.database = none := hnone hgives
    rw [hother "password" (by decide), hother "port" (by decide),
      hother "wait_timeout" (by decide), hdatabase, Option.map_none, (choose_null hnull).1,
      (choose_null hnull).2, optionsFor_nullDatabase "mydb"]
    exact .database fun options h => (Except.ok.inj (of_optionsFor h).1).symm
  · obtain hpassword : args.password = none := hnone hgives
    rw [hother "database" (by decide), hother "port" (by decide),
      hother "wait_timeout" (by decide), hpassword, Option.map_none, (choose_null hnull).1,
      (choose_null hnull).2, optionsFor_nullPassword "Gn0m!ck~"]
    exact .password fun options h => (Except.ok.inj (of_optionsFor h).2.1).symm
  · obtain hport : args.port = none := hnone hgives
    rw [hother "database" (by decide), hother "password" (by decide),
      hother "wait_timeout" (by decide), hport, Option.map_none, (choose_null hnull).1,
      (choose_null hnull).2]
    exact optionsFor_nullPort
  · obtain hwait : args.waitTimeout = none := hnone hgives
    rw [hother "database" (by decide), hother "password" (by decide), hother "port" (by decide),
      hwait, Option.map_none, (choose_null hnull).1, (choose_null hnull).2,
      optionsFor_nullWaitTimeout (.real 30)]
    exact .waitTimeout fun options h => (of_optionsFor h).2.2

end Null

/-- A null in a file that is accepted is as good as leaving the setting out, if and only if the
command line gives a value, or the setting is none of those for which a null counts, or the options
fail with the same fault either way. Otherwise the null is taken for a value. -/
theorem null_counts_as_absent_iff {parse : String → Except Fault Value} {tree : FileTree}
    {args : Arguments} {settings : Settings} {key : String}
    (hload : ConfigFile.loadOrDefault parse tree args.config = .ok settings)
    (hnull : Entries.get? settings key = some .null) :
    ConfigFile.ofEntries (without key settings) = .ok (without key settings) ∧
      (resolve args settings = resolve args (without key settings) ↔
        args.gives key = true ∨ key ∉ nullCounts ∨
          ∃ fault, presetOptions args settings = .error fault ∧
            presetOptions args (without key settings) = .error fault) ∧
      (args.gives key = false → key ∈ nullCounts →
        NullTaken key (presetOptions args (without key settings))
          (presetOptions args settings)) := by
  have haccepted := ConfigFile.ofEntries_of_loadOrDefault hload
  refine ⟨ConfigFile.ofEntries_without haccepted, ⟨fun hsame => ?_, fun h => ?_⟩,
    presetOptions_nullTaken hnull⟩
  · cases hgives : args.gives key with
    | true => exact .inl rfl
    | false =>
      by_cases hkey : key ∈ nullCounts
      · have htaken := presetOptions_nullTaken hnull hgives hkey
        exact .inr (.inr (htaken.eq_iff.1 (congrArg Resolution.options hsame)))
      · exact .inr (.inl hkey)
  · rcases h with hgives | hkey | ⟨fault, hwith, hwithout⟩
    · refine resolve_same fun wanted hwanted => ?_
      have hne : wanted ≠ key := by
        rintro rfl
        rw [hgives] at hwanted
        cases hwanted
      rw [get?_without, if_neg hne]
    · exact resolve_of_options hnull (presetOptions_without hnull hkey)
    · exact resolve_of_options hnull (hwith.trans hwithout.symm)

/-- A file whose password is left empty. -/
def blankPassword : FileTree where
  files := [([".mssqlpreset.yml"], "password:\n".toUTF8)]

/-- The settings are a password that is null. -/
def isBlankPassword : Except Fault Settings → Bool
  | .ok [("password", .null)] => true
  | _ => false

theorem eq_of_isBlankPassword {loaded : Except Fault Settings} (h : isBlankPassword loaded = true) :
    loaded = .ok [("password", .null)] := by
  unfold isBlankPassword at h
  split at h
  · rfl
  · cases h

/-- The password that is left empty is not the default one, but the word for null. -/
theorem blankPassword_taken :
    ConfigFile.loadOrDefault Yaml.parse blankPassword none = .ok [("password", .null)] ∧
      NullTaken "password" (presetOptions {} []) (presetOptions {} [("password", .null)]) ∧
      presetOptions {} [("password", .null)] =
        .ok ({ password := .text "None" } : Options) ∧
      resolve {} [("password", .null)] ≠ resolve {} [] := by
  have hload : ConfigFile.loadOrDefault Yaml.parse blankPassword ({} : Arguments).config =
      .ok [("password", .null)] := eq_of_isBlankPassword (by decide +kernel)
  have hnull : Entries.get? [("password", Value.null)] "password" = some .null := rfl
  have hwith : presetOptions {} [("password", .null)] =
      .ok ({ password := .text "None" } : Options) := rfl
  obtain ⟨-, hsame, htaken⟩ := null_counts_as_absent_iff hload hnull
  refine ⟨hload, htaken rfl (by decide), hwith, fun heq => ?_⟩
  rcases hsame.1 heq with hgives | hkey | ⟨fault, hfault, -⟩
  · cases hgives
  · exact hkey (by decide)
  · rw [hwith] at hfault
    cases hfault

end CommandLine.Resolution

end SeededServer
