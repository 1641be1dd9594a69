import SeededServer.CommandLine.Program
import SeededServer.Proofs.Entries
import SeededServer.Yaml.Meaning

/-!
# Shadowed settings

A value on the command line takes the place of the one in the file, whatever that is: nothing in the
file under such a key is looked at, so it cannot matter. Two files that differ under such keys only
make the same program.

## Main definitions

* `Arguments.gives` — the settings that a command line has values for.
-/
namespace SeededServer.CommandLine

/-- Whether the command line gives a value for a setting: a text, an item, or a switch. -/
def Arguments.gives (args : Arguments) : String → Bool
  | "database" => args.database.isSome
  | "password" => args.password.isSome
  | "queries" => !args.queries.isEmpty
  | "queries_files" => !args.queriesFiles.isEmpty
  | "license" => args.acceptEula
  | "port" => args.port.isSome
  | "version" => args.version.isSome
  | "wait_timeout" => args.waitTimeout.isSome
  | "detach" => args.detach
  | "verbose" => args.verbose
  | "log_file" => args.logFile.isSome
  | _ => false

/-- Settings that agree wherever the command line gives nothing. -/
def Arguments.SameUnlessGiven (args : Arguments) (first second : Settings) : Prop :=
  ∀ key, args.gives key = false → Entries.get? first key = Entries.get? second key

namespace Resolution

variable {args : Arguments} {first second : Settings}

/-! ## One setting -/

theorem isSome_switch (isSet : Bool) : (switch isSet).isSome = isSet := by
  cases isSet <;> rfl

theorem choose_same (h : args.SameUnlessGiven first second) (key : String) {given : Option Value}
    (hgives : given.isSome = args.gives key) (otherwise : Value) :
    choose given first key otherwise = choose given second key otherwise := by
  cases given with
  | some value => rfl
  | none => rw [choose, choose, h key hgives.symm]

theorem choose_map_same {α : Type} (h : args.SameUnlessGiven first second) (key : String)
    (toValue : α → Value) (given : Option α) (hgives : given.isSome = args.gives key)
    (otherwise : Value) :
    choose (given.map toValue) first key otherwise =
      choose (given.map toValue) second key otherwise :=
  choose_same h key (Option.isSome_map.trans hgives) otherwise

theorem choose_switch_same (h : args.SameUnlessGiven first second) (key : String) (isSet : Bool)
    (hgives : isSet = args.gives key) (otherwise : Value) :
    choose (switch isSet) first key otherwise = choose (switch isSet) second key otherwise :=
  choose_same h key ((isSome_switch isSet).trans hgives) otherwise

theorem chooseList_same (h : args.SameUnlessGiven first second) (key : String)
    (given : List String) (hgives : (!given.isEmpty) = args.gives key) :
    chooseList given first key = chooseList given second key := by
  cases given with
  | cons item rest => rfl
  | nil => rw [chooseList, chooseList, h key hgives.symm]

/-! ## All settings -/

theorem presetOptions_same (h : args.SameUnlessGiven first second) :
    presetOptions args first = presetOptions args second := by
  unfold presetOptions
  dsimp only
  rw [choose_map_same h "database" .text args.database rfl,
    choose_map_same h "password" .text args.password rfl,
    choose_map_same h "port" .int args.port rfl,
    choose_map_same h "version" .text args.version rfl,
    choose_map_same h "wait_timeout" .real args.waitTimeout rfl,
    choose_switch_same h "license" args.acceptEula rfl,
    chooseList_same h "queries" args.queries rfl,
    chooseList_same h "queries_files" args.queriesFiles rfl]

theorem resolve_same (h : args.SameUnlessGiven first second) :
    resolve args first = resolve args second := by
  unfold resolve
  rw [choose_switch_same h "verbose" args.verbose rfl,
    choose_switch_same h "detach" args.detach rfl,
    choose_map_same h "log_file" .text args.logFile rfl, presetOptions_same h]

end Resolution

/-! ## The program -/

variable {read : List String → Except Stop Arguments} {parse parse' : String → Except Fault Value}
  {tree : FileTree} {words words' : List String} {args : Arguments} {named named' : Option String}
  {settings settings' : Settings}

theorem prepare_of_load (hwords : read words = .ok args)
    (hload : ConfigFile.loadOrDefault parse tree args.config = .ok settings) :
    prepare read parse tree words = prepareWith tree args settings := by
  rw [prepare, hwords]
  dsimp only
  rw [hload]

/-- What a file says under a key that the command line has a value for does not matter: two files of
which both are accepted, and which agree under all other keys, make the same program, however
command lines are read. The command lines may name their files differently, and the files may be
read differently; otherwise the command lines say the same. -/
theorem run_ignores_shadowed_settings
    (hwords : read words = .ok { args with config := named })
    (hwords' : read words' = .ok { args with config := named' })
    (hload : ConfigFile.loadOrDefault parse tree named = .ok settings)
    (hload' : ConfigFile.loadOrDefault parse' tree named' = .ok settings')
    (hsame : args.SameUnlessGiven settings settings') :
    prepare read parse tree words = prepare read parse' tree words' ∧
      run read parse tree words = run read parse' tree words' := by
  have hprepare : prepare read parse tree words = prepare read parse' tree words' := by
    rw [prepare_of_load hwords hload, prepare_of_load hwords' hload']
    exact congrArg (Preparation.ofResolution tree) (Resolution.resolve_same hsame)
  refine ⟨hprepare, funext fun w => ?_⟩
  rw [run, run, hprepare]

/-- Two files. What the second one says about the port would not pass for one. -/
def twoFiles : FileTree where
  files := [
    (["a.yml"], "port: 1434\nlicense: false\nqueries: [drop table item]\n".toUTF8),
    (["b.yml"], "port: [one, two]\n".toUTF8)]

/-- A command line that gives all that the two files say. -/
def fullWords (file : String) : List String :=
  ["--config", file, "--accept-eula", "--port", "1433", "--query", "select 1"]

/-- What the full words say. -/
def fullArguments : Arguments where
  queries := ["select 1"]
  acceptEula := true
  port := some 1433

/-- The names of the settings that were accepted. -/
def acceptedKeys (loaded : Except Fault Settings) : Option (List String) :=
  loaded.toOption.map fun settings => settings.map (·.1)

theorem get?_of_acceptedKeys {loaded : Except Fault Settings} {keys : List String}
    (h : acceptedKeys loaded = some keys) :
    ∃ settings, loaded = .ok settings ∧ ∀ key, key ∉ keys → Entries.get? settings key = none := by
  cases loaded with
  | error fault => cases h
  | ok settings =>
    refine ⟨settings, rfl, fun key hkey => Entries.get?_eq_none_iff.2 ?_⟩
    obtain rfl : settings.map Prod.fst = keys := Option.some.inj h
    exact hkey

theorem twoFiles_make_one_program :
    acceptedKeys (ConfigFile.loadOrDefault Yaml.parse twoFiles (some "a.yml")) =
        some ["port", "license", "queries"] ∧
      acceptedKeys (ConfigFile.loadOrDefault Yaml.parse twoFiles (some "b.yml")) = some ["port"] ∧
      prepare Arguments.ofList Yaml.parse twoFiles (fullWords "a.yml") =
        prepare Arguments.ofList Yaml.parse twoFiles (fullWords "b.yml") ∧
      run Arguments.ofList Yaml.parse twoFiles (fullWords "a.yml") =
        run Arguments.ofList Yaml.parse twoFiles (fullWords "b.yml") := by
  have hfirst : acceptedKeys (ConfigFile.loadOrDefault Yaml.parse twoFiles (some "a.yml")) =
      some ["port", "license", "queries"] := by decide +kernel
  have hsecond : acceptedKeys (ConfigFile.loadOrDefault Yaml.parse twoFiles (some "b.yml")) =
      some ["port"] := by decide +kernel
  obtain ⟨first, hload, hnone⟩ := get?_of_acceptedKeys hfirst
  obtain ⟨second, hload', hnone'⟩ := get?_of_acceptedKeys hsecond
  have hsame : fullArguments.SameUnlessGiven first second := by
    intro key hgives
    have hkey : key ≠ "port" ∧ key ≠ "license" ∧ key ≠ "queries" := by
      refine ⟨?_, ?_, ?_⟩ <;> rintro rfl <;> cases hgives
    rw [hnone key (by simp [hkey]), hnone' key (by simp [hkey])]
  have hwords : Arguments.ofList (fullWords "a.yml") =
      .ok { fullArguments with config := some "a.yml" } := rfl
  have hwords' : Arguments.ofList (fullWords "b.yml") =
      .ok { fullArguments with config := some "b.yml" } := rfl
  exact ⟨hfirst, hsecond, run_ignores_shadowed_settings hwords hwords' hload hload' hsame⟩

end SeededServer.CommandLine
