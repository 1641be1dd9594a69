import SeededServer.Proofs.Checking
import SeededServer.Proofs.PositiveDoubles

/-!
# What the options accept

The checks of the options accept exactly the options that are well formed, and normalise them once:
what they give is unchanged if it is checked again.

## Main definitions

* `FileTree.Reads` — a path names a text file, and this is its text.
* `Options.AreFiles`, `Options.AreStatements` — queries files with their texts, and statements.
* `Options.Acceptable` — well-formed options.
* `Options.Gives` — the configuration that well-formed options stand for.
* `Config.toOptions` — the options that hold the fields of a configuration.
-/
namespace SeededServer

/-- Items that are all images of something, each of them related to its result. -/
theorem forall₂_map_iff {α β γ : Type} {R : α → γ → Prop} {g : α → β} {items : List β}
    {results : List γ} :
    List.Forall₂ (fun b c => ∃ a, b = g a ∧ R a c) items results ↔
      ∃ origins : List α, items = origins.map g ∧ List.Forall₂ R origins results := by
  constructor
  · intro h
    induction h with
    | nil => exact ⟨[], rfl, .nil⟩
    | cons hfirst _ ih =>
      obtain ⟨a, rfl, ha⟩ := hfirst
      obtain ⟨origins, rfl, horigins⟩ := ih
      exact ⟨a :: origins, rfl, .cons ha horigins⟩
  · rintro ⟨origins, rfl, h⟩
    rw [List.forall₂_map_left_iff]
    exact h.imp fun a c ha => ⟨a, rfl, ha⟩

/-! ## Files -/

namespace FileTree

/-- The path names a UTF-8 file, and this is its text, with a line feed for every line end. -/
def Reads (tree : FileTree) (path text : String) : Prop :=
  Path.hasNul path = false ∧ ∃ written : String,
    tree.find (.ofString path) = .ok (.file written.toUTF8) ∧
      text = String.ofList (Text.unifyNewlines written.toList)

theorem fromUTF8?_eq_some_iff {content : ByteArray} {s : String} :
    String.fromUTF8? content = some s ↔ content = s.toUTF8 := by
  unfold String.fromUTF8?
  constructor
  · intro h
    split at h
    · cases h
      rfl
    · cases h
  · rintro rfl
    exact dif_pos s.isValidUTF8

theorem decode_eq_ok_iff {content : ByteArray} {text : String} :
    decode content = .ok text ↔ ∃ written : String, content = written.toUTF8 ∧
      text = String.ofList (Text.unifyNewlines written.toList) := by
  unfold decode
  simp only [← fromUTF8?_eq_some_iff]
  cases String.fromUTF8? content with
  | none => simp
  | some written => simp [eq_comm]

theorem readText_eq_ok_iff {tree : FileTree} {path text : String} :
    tree.readText path = .ok text ↔ tree.Reads path text := by
  unfold readText Reads
  cases Path.hasNul path with
  | true => simp
  | false =>
    cases tree.find (.ofString path) with
    | error fault => simp [bind, Except.bind]
    | ok node =>
      cases node with
      | directory => simp [bind, Except.bind]
      | file content => simpa [bind, Except.bind] using decode_eq_ok_iff

end FileTree

namespace Options

/-! ## Values that fit -/

/-- A name of a database: a text that is not blank. -/
def IsDatabase (value : Value) : Prop :=
  ∃ name, value = .text name ∧ ∃ c ∈ name.toList, Text.isBlank c = false

/-- A password: a text that is not empty. -/
def IsPassword (value : Value) : Prop := ∃ password, value = .text password ∧ password ≠ ""

/-- A port: an integer from 1 to 65535. -/
def IsPort (value : Value) : Prop := ∃ port, value = .int port ∧ 1 ≤ port ∧ port ≤ 65535

/-- A time to wait: a number that is not zero or less. -/
def IsWait (value : Value) (seconds : Number) : Prop :=
  value.number? = some seconds ∧ seconds.notPositive = false

/-- An image tag: null or a text. -/
def IsVersion (value : Value) : Prop := value = .null ∨ ∃ tag, value = .text tag

/-- Queries files with their texts: every item is a path, and the file there can be read. -/
def AreFiles (tree : FileTree) (value : Value) (texts : List String) : Prop :=
  ∃ paths : List String, value.items? = some (paths.map .text) ∧
    List.Forall₂ tree.Reads paths texts

/-- Statements: no text itself, but something that runs through texts. -/
def AreStatements (value : Value) (statements : List String) : Prop :=
  value.text? = none ∧ value.items? = some (statements.map .text)

/-! ## One check after the other -/

section Checks

variable {value : Value}

@[simp] theorem refuse_ne_ok {α : Type} {option reason : String} {a : α} :
    (refuse option reason value : Except Fault α) ≠ .ok a := by
  intro h
  obtain ⟨_, _, h⟩ := bind_eq_ok_iff.1 h
  cases h

theorem isBlankText_eq_false_iff {s : String} :
    Text.isBlankText s = false ↔ ∃ c ∈ s.toList, Text.isBlank c = false := by
  simp [Text.isBlankText]

theorem checkDatabase_eq_ok_iff {database : String} : checkDatabase value = .ok database ↔
    value = .text database ∧ ∃ c ∈ database.toList, Text.isBlank c = false := by
  rw [← isBlankText_eq_false_iff]
  cases value with
  | text s =>
    simp only [checkDatabase, Value.text.injEq]
    split <;> grind
  | _ => simp [checkDatabase]

theorem checkPassword_eq_ok_iff {password : String} :
    checkPassword value = .ok password ↔ value = .text password ∧ password ≠ "" := by
  cases value with
  | text s =>
    simp only [checkPassword, Value.text.injEq, String.isEmpty_iff]
    split <;> grind
  | _ => simp [checkPassword]

/-- A number in the range of ports is short enough to be a port. -/
theorem exists_port_iff :
    (∃ port : Port, value = .int port.number ∧ 1 ≤ port.number ∧ port.number ≤ 65535) ↔
      IsPort value := by
  constructor
  · rintro ⟨port, hport⟩
    exact ⟨port.number, hport⟩
  · rintro ⟨number, hnumber, hrange⟩
    exact ⟨⟨number, Number.isWritable_of_port (by omega)⟩, hnumber, hrange⟩

theorem checkPort_eq_ok_iff {port : Port} : checkPort value = .ok port ↔
    value = .int port.number ∧ 1 ≤ port.number ∧ port.number ≤ 65535 := by
  obtain ⟨number, writable⟩ := port
  cases value with
  | int n =>
    simp only [checkPort, Value.int.injEq]
    split
    · simp
      omega
    · simp
      omega
  | _ => simp [checkPort]

theorem checkWaitTimeout_eq_ok_iff {seconds : Number} : checkWaitTimeout value = .ok seconds ↔
    value.number? = some seconds ∧ seconds.notPositive = false := by
  unfold checkWaitTimeout
  cases value.number? with
  | none => simp
  | some number =>
    simp only [Option.some.injEq]
    split
    · simp
      grind
    · simp
      grind

theorem checkVersion_eq_ok_iff {version : Option String} : checkVersion value = .ok version ↔
    (value = .null ∨ ∃ tag, value = .text tag) ∧ version = value.text?.filter (· ≠ "") := by
  cases value with
  | null => simp [checkVersion, Value.text?, eq_comm]
  | text tag =>
    have hfilter : (some tag).filter (· ≠ "") = if tag.isEmpty then none else some tag := by
      simp [Option.filter, String.isEmpty_iff]
    simp only [checkVersion, Value.text?, hfilter, Except.ok.injEq]
    simp [eq_comm (a := version)]
  | _ => simp [checkVersion]

theorem checkStatement_eq_ok_iff {statement : String} :
    checkStatement value = .ok statement ↔ value = .text statement := by
  cases value <;> simp [checkStatement]

theorem itemsOf_eq_ok_iff {items : List Value} :
    itemsOf value = .ok items ↔ value.items? = some items := by
  unfold itemsOf
  cases value.items? <;> simp

theorem readQueriesFile_eq_ok_iff {tree : FileTree} {text : String} :
    readQueriesFile tree value = .ok text ↔ ∃ path, value = .text path ∧ tree.Reads path text := by
  cases value with
  | text path =>
    simp only [readQueriesFile, Value.text.injEq, exists_eq_left', ← FileTree.readText_eq_ok_iff]
    cases tree.readText path <;> simp [Except.mapError]
  | _ => simp [readQueriesFile]

theorem readQueriesFiles_eq_ok_iff {tree : FileTree} {texts : List String} :
    readQueriesFiles tree value = .ok texts ↔ AreFiles tree value texts := by
  simp only [readQueriesFiles, AreFiles, bind_eq_ok_iff, itemsOf_eq_ok_iff, mapM_eq_ok_iff,
    readQueriesFile_eq_ok_iff, forall₂_map_iff]
  constructor
  · rintro ⟨_, hitems, paths, rfl, hreads⟩
    exact ⟨paths, hitems, hreads⟩
  · rintro ⟨paths, hitems, hreads⟩
    exact ⟨_, hitems, paths, rfl, hreads⟩

theorem mapM_checkStatement_eq_ok_iff {items : List Value} {statements : List String} :
    items.mapM checkStatement = .ok statements ↔ items = statements.map .text := by
  rw [mapM_eq_ok_iff, ← List.forall₂_eq_eq_eq, List.forall₂_map_right_iff]
  simp only [checkStatement_eq_ok_iff]

end Checks

/-- The statements of the files come first. -/
theorem checkStatements_eq_ok_iff {tree : FileTree} {queries queriesFiles : Value}
    {result : List String} :
    checkStatements tree queries queriesFiles = .ok result ↔ ∃ texts statements,
      AreFiles tree queriesFiles texts ∧ AreStatements queries statements ∧
        result = texts ++ statements := by
  unfold checkStatements AreStatements
  cases htext : queries.text? with
  | some s => simp [throw, throwThe, MonadExceptOf.throw, bind, Except.bind]
  | none =>
    simp only [Option.isSome_none, Bool.false_eq_true, if_false, bind_eq_ok_iff,
      readQueriesFiles_eq_ok_iff, itemsOf_eq_ok_iff, mapM_checkStatement_eq_ok_iff]
    constructor
    · rintro ⟨texts, hfiles, _, hitems, statements, rfl, ⟨⟩⟩
      exact ⟨texts, statements, hfiles, ⟨trivial, hitems⟩, rfl⟩
    · rintro ⟨texts, statements, hfiles, ⟨-, hitems⟩, rfl⟩
      exact ⟨texts, hfiles, _, hitems, statements, rfl, rfl⟩

/-! ## All checks -/

/-- Options that are well formed. -/
structure Acceptable (tree : FileTree) (options : Options) : Prop where
  database : IsDatabase options.database
  password : IsPassword options.password
  port : IsPort options.port
  /-- The time to wait is not too large for a double. -/
  waitTimeout : ∃ seconds, IsWait options.waitTimeout seconds ∧ seconds.toFloat?.isSome = true
  version : IsVersion options.version
  queries : ∃ statements, AreStatements options.queries statements
  queriesFiles : ∃ texts, AreFiles tree options.queriesFiles texts

/-- The configuration that well-formed options stand for. -/
structure Gives (tree : FileTree) (options : Options) (config : Config) : Prop where
  database : options.database = .text config.database
  password : ∃ password : String, options.password = .text password ∧ config.password = password
  port : options.port = .int config.port.number
  license : config.license = options.license.truthy
  /-- The empty tag counts as none. -/
  version : config.version = options.version.text?.filter (· ≠ "")
  /-- The time to wait is turned into a double. -/
  waitTimeout : ∃ seconds, options.waitTimeout.number? = some seconds ∧
    seconds.toFloat? = some config.waitTimeout
  /-- The files are read in their order, each as one statement, and come before the queries. -/
  queries : ∃ texts statements, AreFiles tree options.queriesFiles texts ∧
    AreStatements options.queries statements ∧ config.queries = texts ++ statements

theorem check_eq_ok_iff {tree : FileTree} {options : Options} {config : Config} :
    options.check tree = .ok config ↔ options.Acceptable tree ∧ options.Gives tree config := by
  unfold check
  simp only [bind_eq_ok_iff, checkDatabase_eq_ok_iff, checkPassword_eq_ok_iff, checkPort_eq_ok_iff,
    checkWaitTimeout_eq_ok_iff, checkVersion_eq_ok_iff, checkStatements_eq_ok_iff,
    Number.toDouble_eq_ok_iff]
  constructor
  · rintro ⟨database, ⟨hdatabase, hblank⟩, password, ⟨hpassword, hempty⟩, port, ⟨hport, hrange⟩,
      seconds, hwait, version, ⟨hversion, rfl⟩, queries,
      ⟨texts, statements, hfiles, hstatements, rfl⟩, waitTimeout, hdouble, ⟨⟩⟩
    exact ⟨⟨⟨_, hdatabase, hblank⟩, ⟨_, hpassword, hempty⟩, ⟨_, hport, hrange⟩,
        ⟨seconds, hwait, by simp [hdouble]⟩, hversion, ⟨statements, hstatements⟩,
        ⟨texts, hfiles⟩⟩,
      ⟨hdatabase, ⟨password, hpassword, rfl⟩, hport, rfl, rfl, ⟨seconds, hwait.1, hdouble⟩,
        ⟨texts, statements, hfiles, hstatements, rfl⟩⟩⟩
  · rintro ⟨haccept, hgives⟩
    obtain ⟨_, hdatabase, hblank⟩ := haccept.database
    obtain ⟨password, hpassword, hempty⟩ := haccept.password
    obtain ⟨_, hport, hrange⟩ := haccept.port
    obtain ⟨seconds, ⟨hseconds, hpositive⟩, -⟩ := haccept.waitTimeout
    obtain ⟨_, hsame, hdouble⟩ := hgives.waitTimeout
    obtain rfl := Option.some.inj (hseconds.symm.trans hsame)
    rw [hgives.database] at hdatabase
    obtain ⟨_, hgiven, hsecret⟩ := hgives.password
    obtain rfl := Value.text.inj (hpassword.symm.trans hgiven)
    rw [hgives.port] at hport
    cases hdatabase
    cases hport
    refine ⟨_, ⟨hgives.database, hblank⟩, _, ⟨hpassword, hempty⟩, _, ⟨hgives.port, hrange⟩,
      seconds, ⟨hseconds, hpositive⟩, _, ⟨haccept.version, hgives.version⟩, _,
      hgives.queries, _, hdouble, ?_⟩
    rw [← hgives.license, ← hsecret]
    rfl

/-- Options that are accepted make a valid configuration. -/
theorem valid_of_check {tree : FileTree} {options : Options} {config : Config}
    (h : options.check tree = .ok config) : config.Valid := by
  unfold check at h
  simp only [bind_eq_ok_iff, checkDatabase_eq_ok_iff, checkPassword_eq_ok_iff, checkPort_eq_ok_iff,
    checkWaitTimeout_eq_ok_iff, checkVersion_eq_ok_iff] at h
  obtain ⟨_, ⟨-, hblank⟩, _, ⟨-, hempty⟩, _, ⟨-, hrange⟩, seconds, ⟨-, hpositive⟩, _, ⟨-, rfl⟩,
    _, -, _, hdouble, ⟨⟩⟩ := h
  exact {
    database := isBlankText_eq_false_iff.2 hblank
    password := ⟨_, rfl, hempty⟩
    port := by dsimp only; omega
    version := by simp
    waitTimeout := ⟨seconds, hpositive, hdouble⟩ }

theorem Acceptable.gives {tree : FileTree} {options : Options} (h : options.Acceptable tree) :
    ∃ config, options.Gives tree config := by
  obtain ⟨database, hdatabase, -⟩ := h.database
  obtain ⟨password, hpassword, -⟩ := h.password
  obtain ⟨port, hport, -⟩ := exists_port_iff.2 h.port
  obtain ⟨seconds, ⟨hseconds, -⟩, hdouble⟩ := h.waitTimeout
  obtain ⟨waitTimeout, hwait⟩ := Option.isSome_iff_exists.1 hdouble
  obtain ⟨statements, hstatements⟩ := h.queries
  obtain ⟨texts, hfiles⟩ := h.queriesFiles
  exact ⟨{ database, password, port, waitTimeout, queries := texts ++ statements,
           license := options.license.truthy, version := options.version.text?.filter (· ≠ "") },
    hdatabase, ⟨password, hpassword, rfl⟩, hport, rfl, rfl, ⟨seconds, hseconds, hwait⟩,
    texts, statements, hfiles, hstatements, rfl⟩

end Options

/-! ## Checking again -/

/-- The options that hold the fields of a configuration: its queries as queries, and no files. -/
def Config.toOptions (config : Config) : Options where
  database := .text config.database
  password := .text config.password.head
  queries := .tuple (config.queries.map .text)
  license := .bool config.license
  port := .int config.port.number
  version := .ofOption (config.version.map .text)
  waitTimeout := .real config.waitTimeout

namespace Options

/-- Every valid configuration is what its own fields stand for. -/
theorem check_toOptions {config : Config} (h : config.Valid) (tree : FileTree) :
    config.toOptions.check tree = .ok config := by
  obtain ⟨seconds, hpositive, hdouble⟩ := h.waitTimeout
  obtain ⟨password, hpassword, hempty⟩ := h.password
  have hwait : Number.notPositive (.real config.waitTimeout) = false :=
    Number.notPositive_of_toFloat? hpositive (Number.toDouble_eq_ok_iff.1 hdouble)
  have hstatements : AreStatements config.toOptions.queries config.queries := ⟨rfl, rfl⟩
  have hfiles : AreFiles tree config.toOptions.queriesFiles [] := ⟨[], rfl, .nil⟩
  have hversion : IsVersion config.toOptions.version ∧
      config.version = config.toOptions.version.text?.filter (· ≠ "") := by
    unfold Config.toOptions
    cases htags : config.version with
    | none => exact ⟨.inl rfl, rfl⟩
    | some tag =>
      have htag : tag ≠ "" := by simpa [htags] using h.version
      exact ⟨.inr ⟨tag, rfl⟩, by simp [Value.ofOption, Value.text?, Option.filter, htag]⟩
  refine check_eq_ok_iff.2 ⟨{
    database := ⟨_, rfl, isBlankText_eq_false_iff.1 h.database⟩
    password := ⟨password, by rw [Config.toOptions, hpassword], hempty⟩
    port := ⟨_, rfl, by have := h.port; omega⟩
    waitTimeout := ⟨_, ⟨rfl, hwait⟩, rfl⟩
    version := hversion.1
    queries := ⟨_, hstatements⟩
    queriesFiles := ⟨_, hfiles⟩ }, {
    database := rfl
    password := ⟨password, by rw [Config.toOptions, hpassword], hpassword⟩
    port := rfl
    license := rfl
    version := hversion.2
    waitTimeout := ⟨_, rfl, rfl⟩
    queries := ⟨_, _, hfiles, hstatements, rfl⟩ }⟩

/-- The checks accept exactly the options that are well formed. What they give is the configuration
that these stand for, its tag is never the empty text, and checking its fields again gives the same
configuration, whatever files there are. -/
theorem check_accepts_and_normalises (tree : FileTree) (options : Options) :
    ((∃ config, options.check tree = .ok config) ↔ options.Acceptable tree) ∧
      ∀ config, options.check tree = .ok config →
        options.Gives tree config ∧ config.version ≠ some "" ∧
          ∀ other : FileTree, config.toOptions.check other = .ok config := by
  constructor
  · constructor
    · rintro ⟨config, h⟩
      exact (check_eq_ok_iff.1 h).1
    · intro h
      obtain ⟨config, hgives⟩ := h.gives
      exact ⟨config, check_eq_ok_iff.2 ⟨h, hgives⟩⟩
  · intro config h
    have hgives := (check_eq_ok_iff.1 h).2
    have hvalid : config.Valid := valid_of_check h
    exact ⟨hgives, hvalid.version, check_toOptions hvalid⟩

end Options

end SeededServer
