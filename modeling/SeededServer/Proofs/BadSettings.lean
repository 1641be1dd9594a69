import SeededServer.Proofs.EscapingFaults
import SeededServer.Proofs.Shadowing

/-!
# Bad settings

A setting of the file may have a value of any kind. Most bad values are reported to the user, but
some bring the program down: a value is converted before it is checked, and it is shown when it is
refused, and both may fail. `Crashing` says which values these are. The program ends well or reports
a bad value unless one of them counts, and each of them brings the program down on its own.

## Main definitions

* `Crashing` — the values that bring the program down.
* `Settles` — how the program gets past its settings, or tells the user what is wrong with them.
-/
namespace SeededServer.CommandLine

/-! ## What a command line gives -/

namespace Arguments

/-- What holds of all arguments that are read: a port has been converted from a text, and a path has
been looked up. -/
structure Sound (args : Arguments) : Prop where
  port : ∀ n, args.port = some n → Number.isWritable n = true
  queriesFiles : ∀ path ∈ args.queriesFiles, Path.hasNul path = false

theorem toPath_ok (text path : String) (h : toPath text = .ok path) : Path.hasNul path = false := by
  unfold toPath at h
  split at h
  · cases h
  · next hnul =>
    cases h
    simpa using hnul

theorem toInt_ok {parameter : Parameter} {text : String} {n : Int}
    (h : toInt parameter text = .ok n) : Number.isWritable n = true := by
  unfold toInt at h
  split at h
  · next hread =>
    cases h
    exact Number.isWritable_of_readInt hread
  · cases h

theorem give_sound (args : Arguments) (parameter : Parameter) (texts : List String)
    (args' : Arguments) (hargs : args.Sound) (h : args.give parameter texts = .ok args') :
    args'.Sound := by
  cases parameter with
  | port =>
    obtain ⟨port, hport, h⟩ := ok_of_bind h
    cases h
    refine ⟨fun n hn => ?_, hargs.queriesFiles⟩
    obtain rfl : port = some n := hn
    cases hlast : texts.getLast? with
    | none =>
      rw [hlast] at hport
      cases hport
    | some text =>
      rw [hlast] at hport
      obtain ⟨m, hm, hport⟩ := ok_of_bind hport
      cases hport
      exact toInt_ok hm
  | queriesFile =>
    obtain ⟨paths, hpaths, h⟩ := ok_of_bind h
    cases h
    exact ⟨hargs.port, mapM_forall toPath_ok hpaths⟩
  | waitTimeout | config | logFile =>
    obtain ⟨value, -, h⟩ := ok_of_bind h
    cases h
    exact ⟨hargs.port, hargs.queriesFiles⟩
  | _ =>
    cases h
    exact ⟨hargs.port, hargs.queriesFiles⟩

theorem sound_empty : Sound {} where
  port n h := by cases h
  queriesFiles := List.forall_mem_nil _

theorem ofList_sound {words : List String} {args : Arguments} (h : ofList words = .ok args) :
    args.Sound := by
  obtain ⟨read, -, h⟩ := ok_of_bind h
  unfold ofWords at h
  split at h
  · cases h
  · obtain ⟨taken, htaken, h⟩ := ok_of_bind h
    split at h
    · cases h
      exact foldlM_preserves (fun args parameter args' => give_sound args parameter _ args')
        sound_empty htaken
    · cases h

end Arguments

open Options (TimeoutCrash StatementsCrash FilesCrash CrashesWith)

/-! ## The values that bring the program down -/

/-- The value is no integer, or it is one that cannot be shown. -/
def PortCrash (value : Value) : Prop :=
  ∀ n, Resolution.toInt value = .ok n → Number.isWritable n = false

/-- The values of settings that bring the program down. -/
inductive Crashing (tree : FileTree) : (key : String) → Value → Prop where
  | database {value : Value} : value.isWritable = false → Crashing tree "database" value
  | password {value : Value} : value.isWritable = false → Crashing tree "password" value
  | version {value : Value} : value.isWritable = false → Crashing tree "version" value
  | port {value : Value} : PortCrash value → Crashing tree "port" value
  | waitTimeout {value : Value} : TimeoutCrash value → Crashing tree "wait_timeout" value
  | queries {value : Value} : value.truthy = true → StatementsCrash value →
      Crashing tree "queries" value
  | queriesFiles {value : Value} : value.truthy = true → FilesCrash tree value →
      Crashing tree "queries_files" value

/-- The file has a value that counts and brings the program down. -/
def Crashes (tree : FileTree) (args : Arguments) (settings : Settings) : Prop :=
  ∃ key value, args.gives key = false ∧ Entries.get? settings key = some value ∧
    Crashing tree key value

namespace Resolution

section Counting

variable {tree : FileTree} {args : Arguments} {settings : Settings} {key : String}

/-- A bad value is one of the file, if neither the command line nor the default is bad. -/
theorem crashes_of_choose (bad : Value → Prop)
    (hcrash : ∀ value, bad value → Crashing tree key value) {α : Type} {toValue : α → Value}
    {given : Option α} (hgives : given.isSome = args.gives key)
    (hgiven : ∀ a, given = some a → ¬bad (toValue a)) {otherwise : Value}
    (hotherwise : ¬bad otherwise) (h : bad (choose (given.map toValue) settings key otherwise)) :
    Crashes tree args settings := by
  cases given with
  | some a => exact absurd h (hgiven a rfl)
  | none =>
    cases hvalue : Entries.get? settings key with
    | some value =>
      rw [Option.map_none, choose, hvalue] at h
      exact ⟨key, value, hgives.symm, hvalue, hcrash value h⟩
    | none =>
      rw [Option.map_none, choose, hvalue] at h
      exact absurd h hotherwise

theorem crashes_of_chooseList (bad : Value → Prop)
    (hcrash : ∀ value, value.truthy = true → bad value → Crashing tree key value)
    {given : List String} (hgives : (!given.isEmpty) = args.gives key)
    (hgiven : ¬bad (.list (given.map .text))) (h : bad (chooseList given settings key)) :
    Crashes tree args settings := by
  cases given with
  | cons item rest => exact absurd h hgiven
  | nil =>
    cases hvalue : Entries.get? settings key with
    | none =>
      rw [chooseList, hvalue] at h
      exact absurd h hgiven
    | some value =>
      rw [chooseList, hvalue] at h
      change bad (if value.truthy = true then value else .list []) at h
      split at h
      · next htruthy => exact ⟨key, value, hgives.symm, hvalue, hcrash value htruthy h⟩
      · exact absurd h hgiven

end Counting

/-! ### What the command line gives is not bad -/

theorem not_timeoutCrash_real (x : Float) : ¬TimeoutCrash (.real x) := by
  rintro (⟨-, h⟩ | ⟨h, -, hlarge⟩)
  · cases h
  · cases h
    cases hlarge

theorem not_portCrash_int {n : Int} (h : Number.isWritable n = true) : ¬PortCrash (.int n) := by
  intro hcrash
  rw [hcrash n rfl] at h
  cases h

theorem not_filesCrash_texts {tree : FileTree} {paths : List String}
    (hpaths : ∀ path ∈ paths, Path.hasNul path = false) :
    ¬FilesCrash tree (.list (paths.map .text)) := by
  rintro (h | ⟨h, hfind, hnul⟩)
  · cases h
  · cases h
    obtain ⟨path, hpath, rfl⟩ := List.mem_map.1 (List.mem_of_find?_eq_some hfind)
    have hcontra := hnul path rfl
    rw [hpaths path hpath] at hcontra
    cases hcontra

/-! ### Conversions -/

theorem toText_answers (value : Value) :
    Answers (toText value) (fun converted => ∃ text, converted = .text text)
      (value.isWritable = false) := by
  unfold toText Value.display
  split
  · exact .ok ⟨_, rfl⟩
  · next h => exact .failure (by simpa using h)

theorem textOrNull_answers (value : Value) :
    Answers (textOrNull value) (fun converted => converted.isWritable = true)
      (value.isWritable = false) := by
  unfold textOrNull
  split
  · exact .ok rfl
  · refine (toText_answers value).mono ?_ id
    rintro _ ⟨text, rfl⟩
    rfl

theorem toInt_answers (value : Value) :
    Answers (toInt value) (toInt value = .ok ·) (PortCrash value) where
  value _ h := h
  crash fault h _ := fun n hn => by
    rw [h] at hn
    cases hn

/-- A conversion that fails has its reason in the file, and so has a check that fails after it. -/
theorem presetOptions_answers {args : Arguments} (hargs : args.Sound) (tree : FileTree)
    (settings : Settings) :
    Answers (presetOptions args settings)
      (fun options => options.Crash tree → Crashes tree args settings)
      (Crashes tree args settings) := by
  -- Which of the values that count can be bad: never a text, and of the others none of those that
  -- the command line gives, nor a default.
  have texts {key : String} {given : Option String} {otherwise : Value}
      (hcrash : ∀ value, value.isWritable = false → Crashing tree key value)
      (hgives : given.isSome = args.gives key) (hotherwise : otherwise.isWritable = true) :
      (choose (given.map .text) settings key otherwise).isWritable = false →
        Crashes tree args settings :=
    crashes_of_choose (·.isWritable = false) hcrash hgives
      (fun text _ => (nofun : ¬(Value.text text).isWritable = false)) (by simp [hotherwise])
  have hport : PortCrash (choose (args.port.map .int) settings "port" (.int Config.serverPort)) →
      Crashes tree args settings :=
    crashes_of_choose PortCrash (fun _ => .port) rfl
      (fun n hn => not_portCrash_int (hargs.port n hn)) (not_portCrash_int (by decide))
  have hwait : TimeoutCrash
        (choose (args.waitTimeout.map .real) settings "wait_timeout" (.real 30)) →
      Crashes tree args settings :=
    crashes_of_choose TimeoutCrash (fun _ => .waitTimeout) rfl
      (fun x _ => not_timeoutCrash_real x) (not_timeoutCrash_real 30)
  have hqueries : StatementsCrash (chooseList args.queries settings "queries") →
      Crashes tree args settings :=
    crashes_of_chooseList StatementsCrash (fun _ => .queries) rfl
      (Options.not_statementsCrash rfl (List.forall_mem_map.2 fun _ _ => rfl))
  have hfiles : FilesCrash tree (chooseList args.queriesFiles settings "queries_files") →
      Crashes tree args settings :=
    crashes_of_chooseList (FilesCrash tree) (fun _ => .queriesFiles) rfl
      (not_filesCrash_texts hargs.queriesFiles)
  unfold presetOptions
  dsimp only
  refine ((toText_answers _).because (texts (fun _ => .database) rfl rfl)).bind ?_
  rintro _ ⟨database, rfl⟩
  refine ((toText_answers _).because (texts (fun _ => .password) rfl rfl)).bind ?_
  rintro _ ⟨password, rfl⟩
  refine ((toInt_answers _).because hport).bind fun port hconverted => ?_
  refine ((textOrNull_answers _).because (texts (fun _ => .version) rfl rfl)).bind ?_
  intro version hversion
  refine .ok fun hcrash => ?_
  cases hcrash with
  | database h => cases h
  | port h =>
    refine hport fun n hn => ?_
    rw [hconverted] at hn
    cases hn
    exact h
  | version h =>
    rw [hversion] at h
    cases h
  | waitTimeout h => exact hwait h
  | statements h => exact hqueries h
  | files h => exact hfiles h

/-! ### A single setting -/

section Single

variable (key : String) (value : Value) (wanted : String)

theorem choose_single (otherwise : Value) :
    choose none [(key, value)] wanted otherwise = if key = wanted then value else otherwise := by
  rw [choose, Entries.get?_cons]
  split <;> rfl

theorem chooseList_single :
    chooseList [] [(key, value)] wanted =
      if key = wanted then if value.truthy then value else .list [] else .list [] := by
  rw [chooseList, Entries.get?_cons]
  by_cases h : key = wanted
  · rw [if_pos h, if_pos h]
    rfl
  · rw [if_neg h, if_neg h]
    rfl

end Single

theorem toText_crashes {value : Value} (h : value.isWritable = false) :
    CrashesWith (toText value) := by
  rw [toText, Value.display, h]
  exact ⟨Number.tooLong, rfl, rfl⟩

/-- A conversion that fails does so with a fault that is not meant for the user. -/
theorem toInt_crashes {value : Value} {fault : Fault} (h : toInt value = .error fault) :
    CrashesWith (toInt value) := by
  refine ⟨fault, h, ?_⟩
  have of_mapError {result : Except Number.Refusal Int} {message : Number.Refusal → String}
      (h : result.mapError (fun refusal => Fault.other .badValue (message refusal)) =
        .error fault) :
      fault.isPreset = false := by
    cases result with
    | ok n => cases h
    | error refusal => cases h; rfl
  unfold toInt at h
  split at h
  · cases h
  · cases h
  · split at h <;> cases h <;> rfl
  · split at h <;> cases h <;> rfl
  · exact of_mapError h
  · exact of_mapError h
  · cases h
    rfl

/-- A value that brings the program down does so on its own. -/
theorem options_crash {tree : FileTree} {key : String} {value : Value}
    (h : Crashing tree key value) :
    CrashesWith (presetOptions {} [(key, value)] >>= fun options => options.check tree) := by
  unfold presetOptions
  have hswitch : switch false = none := rfl
  simp only [Option.map_none, hswitch, choose_single, chooseList_single]
  cases h with
  | database h =>
    simp only [reduceIte]
    exact (toText_crashes h).bind.bind
  | password h =>
    simp only [String.reduceEq, reduceIte]
    exact (toText_crashes h).bind.bind
  | version h =>
    have htext : textOrNull value = toText value := by
      unfold textOrNull
      split
      · cases h
      · rfl
    simp only [String.reduceEq, reduceIte, htext]
    exact (toText_crashes h).bind.bind
  | port h =>
    simp only [String.reduceEq, reduceIte]
    cases hport : toInt value with
    | error fault =>
      rw [← hport]
      exact (toInt_crashes hport).bind.bind
    | ok n => exact Options.check_crashes_of_port tree (h n hport)
  | waitTimeout h =>
    simp only [String.reduceEq, reduceIte]
    exact Options.check_crashes_of_waitTimeout tree h
  | queries htruthy h =>
    simp only [String.reduceEq, reduceIte, htruthy]
    exact Options.check_crashes_of_queries tree h
  | queriesFiles htruthy h =>
    simp only [String.reduceEq, reduceIte, htruthy]
    exact Options.check_crashes_of_queriesFiles tree h

end Resolution

/-! ## The program -/

/-- The program has a valid configuration to run, or it tells the user what is wrong. -/
inductive Settles : Except Stop Runner → Prop where
  | ready {runner : Runner} : runner.config.Valid → Settles (.ok runner)
  | refused {fault : Fault} : fault.isPreset = true → Settles (.error (.refused fault.text))

theorem settles_of_answers {result : Except Fault Runner} {C : Prop}
    (h : Answers result (·.config.Valid) C) (hC : ¬C) : Settles (result.mapError .ofFault) := by
  cases result with
  | ok runner => exact .ready (h.value runner rfl)
  | error fault =>
    cases hpreset : fault.isPreset with
    | false => exact absurd (h.crash fault rfl hpreset) hC
    | true =>
      have hstop : Stop.ofFault fault = .refused fault.text := if_pos hpreset
      rw [Except.mapError, hstop]
      exact .refused hpreset

theorem runner_answers {args : Arguments} (hargs : args.Sound) (tree : FileTree)
    (settings : Settings) :
    Answers (Preparation.runner tree (.resolve args settings)) (·.config.Valid)
      (Crashes tree args settings) :=
  (Resolution.presetOptions_answers hargs tree settings).bind fun options hoptions =>
    ((options.check_answers tree).because hoptions).bind fun _ hconfig => .ok hconfig

theorem presetOptions_of_gives_nothing {args : Arguments} (h : ∀ key, args.gives key = false)
    (settings : Settings) :
    Resolution.presetOptions args settings = Resolution.presetOptions {} settings := by
  have absent {α : Type} {given : Option α} (hnone : given.isSome = false) : given = none :=
    Option.isNone_iff_eq_none.1 (Option.isSome_eq_false_iff.1 hnone)
  have empty {texts : List String} (hempty : (!texts.isEmpty) = false) : texts = [] := by
    simpa using hempty
  have hdatabase : args.database = none := absent (h "database")
  have hpassword : args.password = none := absent (h "password")
  have hport : args.port = none := absent (h "port")
  have hversion : args.version = none := absent (h "version")
  have hwait : args.waitTimeout = none := absent (h "wait_timeout")
  have hlicense : args.acceptEula = false := h "license"
  have hqueries : args.queries = [] := empty (h "queries")
  have hfiles : args.queriesFiles = [] := empty (h "queries_files")
  rw [Resolution.presetOptions, hdatabase, hpassword, hport, hversion, hwait, hlicense, hqueries,
    hfiles]
  rfl

theorem runner_crashes {tree : FileTree} {args : Arguments} (hargs : ∀ key, args.gives key = false)
    {key : String} {value : Value} (h : Crashing tree key value) :
    CrashesWith (Preparation.runner tree (.resolve args [(key, value)])) := by
  have hoptions : (Resolution.resolve args [(key, value)]).options =
      Resolution.presetOptions {} [(key, value)] := presetOptions_of_gives_nothing hargs _
  rw [Preparation.runner, hoptions, ← bind_assoc]
  exact (Resolution.options_crash h).bind

section Prepare

variable {read : List String → Except Stop Arguments} {parse : String → Except Fault Value}
  {tree : FileTree} {words : List String} {args : Arguments} {settings : Settings}

/-- Without a log file, all that can fail once the settings are loaded is their conversion and their
checks. -/
theorem prepare_outcome (hwords : read words = .ok args)
    (hload : ConfigFile.loadOrDefault parse tree args.config = .ok settings)
    (hgiven : args.logFile = none) (hlog : Entries.get? settings "log_file" = none) :
    (prepare read parse tree words).outcome =
      (Preparation.runner tree (.resolve args settings)).mapError .ofFault := by
  have hnone : (Resolution.resolve args settings).logFile = .null := by
    rw [Resolution.resolve, hgiven]
    simp [Resolution.choose, hlog]
  have hopen : Preparation.openLog tree .null = .ok (none, tree) := rfl
  rw [prepare_of_load hwords hload, prepareWith, Preparation.ofResolution, hnone, hopen]

/-- Without a log file, the program gets past its settings or tells the user what is wrong with
them, unless a value of the file that counts brings it down; and each of these values does so on its
own. The command line is read by any reader that gives sound arguments. -/
theorem prepare_settles_unless_crashing
    (hread : ∀ words args, read words = .ok args → args.Sound) (hwords : read words = .ok args)
    (hload : ConfigFile.loadOrDefault parse tree args.config = .ok settings)
    (hgiven : args.logFile = none) (hlog : Entries.get? settings "log_file" = none) :
    (¬Crashes tree args settings → Settles (prepare read parse tree words).outcome) ∧
      ∀ key value, (∀ name, args.gives name = false) → settings = [(key, value)] →
        Crashing tree key value → ∃ fault, fault.isPreset = false ∧
          (prepare read parse tree words).outcome = .error (.crashed fault) := by
  rw [prepare_outcome hwords hload hgiven hlog]
  refine ⟨settles_of_answers (runner_answers (hread words args hwords) tree settings), ?_⟩
  rintro key value hnothing rfl hcrashing
  obtain ⟨fault, hfault, hpreset⟩ := runner_crashes hnothing hcrashing
  have hstop : Stop.ofFault fault = .crashed fault := if_neg (by simp [hpreset])
  exact ⟨fault, hpreset, by rw [hfault, Except.mapError, hstop]⟩

end Prepare

/-- A file that gives no port. -/
def nullPort : FileTree where
  files := [([".mssqlpreset.yml"], "port: \n".toUTF8)]

/-- The settings are a port that is null. -/
def isNullPort : Except Fault Settings → Bool
  | .ok [("port", .null)] => true
  | _ => false

theorem eq_of_isNullPort {loaded : Except Fault Settings} (h : isNullPort loaded = true) :
    loaded = .ok [("port", .null)] := by
  unfold isNullPort at h
  split at h
  · rfl
  · cases h

theorem gives_empty (key : String) : Arguments.gives {} key = false := by
  unfold Arguments.gives
  split <;> rfl

/-- A port that is null brings the program down. -/
theorem nullPort_crashes :
    ConfigFile.loadOrDefault Yaml.parse nullPort none = .ok [("port", .null)] ∧
      ∃ fault, fault.isPreset = false ∧
        (prepare Arguments.ofList Yaml.parse nullPort []).outcome = .error (.crashed fault) := by
  have hload : ConfigFile.loadOrDefault Yaml.parse nullPort none = .ok [("port", .null)] :=
    eq_of_isNullPort (by decide +kernel)
  have hwords : Arguments.ofList [] = .ok {} := rfl
  have hcrash : PortCrash .null := fun _ h => nomatch h
  refine ⟨hload, ?_⟩
  have hread : ∀ words args, Arguments.ofList words = .ok args → args.Sound :=
    fun _ _ => Arguments.ofList_sound
  exact (prepare_settles_unless_crashing hread hwords hload rfl rfl).2 "port" .null gives_empty rfl
    (.port hcrash)

end SeededServer.CommandLine
