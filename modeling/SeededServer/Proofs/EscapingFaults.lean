import SeededServer.Proofs.Acceptance

/-!
# Faults that escape the checks

Options that do not fit are reported as preset faults, with three exceptions: a value is run through
or taken for a path without a check of its type, an integer is shown although it has too many digits
to be written, and one that fits is turned into a double although it is too large for one. This
module says exactly which options let which fault escape.

## Main definitions

* `Options.EscapesWith` — a result is a fault that is not meant for the user.
* `Options.Escapes` — options whose checks let a fault escape, in the order of the checks.
-/
namespace SeededServer.Options

/-! ## Escaping from several steps -/

/-- The result is this fault, and the fault is not meant for the user. -/
def EscapesWith {α : Type} (result : Except Fault α) (fault : Fault) : Prop :=
  result = .error fault ∧ fault.isPreset = false

section Steps

variable {α β : Type} {fault other : Fault}

@[simp] theorem not_escapesWith_ok {a : α} : ¬EscapesWith (.ok a) fault := by simp [EscapesWith]

@[simp] theorem not_escapesWith_pure {a : α} : ¬EscapesWith (pure a) fault := not_escapesWith_ok

theorem not_escapesWith_of_isPreset (h : other.isPreset = true) :
    ¬EscapesWith (.error other : Except Fault α) fault := by
  rintro ⟨⟨⟩, hpreset⟩
  simp [h] at hpreset

theorem escapesWith_error_iff (h : other.isPreset = false) :
    EscapesWith (.error other : Except Fault α) fault ↔ fault = other := by
  constructor
  · rintro ⟨⟨⟩, -⟩
    rfl
  · rintro rfl
    exact ⟨rfl, h⟩

theorem escapesWith_bind_iff {m : Except Fault α} {f : α → Except Fault β} :
    EscapesWith (m >>= f) fault ↔
      EscapesWith m fault ∨ ∃ a, m = .ok a ∧ EscapesWith (f a) fault := by
  cases m with
  | error cause => simp [EscapesWith, bind, Except.bind]
  | ok a => simp [EscapesWith, bind, Except.bind]

/-- What escapes from a row of items is what escapes from one of them, after all before it were
accepted. -/
theorem escapesWith_mapM_iff {f : α → Except Fault β} {items : List α} :
    EscapesWith (items.mapM f) fault ↔ ∃ done results item rest, items = done ++ item :: rest ∧
      List.Forall₂ (fun a b => f a = .ok b) done results ∧ EscapesWith (f item) fault := by
  induction items with
  | nil => simp [pure, Except.pure]
  | cons first items ih =>
    simp only [List.mapM_cons, escapesWith_bind_iff]
    constructor
    · rintro (hfirst | ⟨b, hfirst, hlater | ⟨_, _, hnone⟩⟩)
      · exact ⟨[], [], first, items, rfl, .nil, hfirst⟩
      · obtain ⟨done, results, item, rest, rfl, hdone, hitem⟩ := ih.1 hlater
        exact ⟨first :: done, b :: results, item, rest, rfl, .cons hfirst hdone, hitem⟩
      · exact absurd hnone not_escapesWith_ok
    · rintro ⟨done, results, item, rest, hitems, hdone, hitem⟩
      cases hdone with
      | nil =>
        cases hitems
        exact .inl hitem
      | cons hfirst hdone =>
        cases hitems
        exact .inr ⟨_, hfirst, .inl (ih.2 ⟨_, _, item, rest, rfl, hdone, hitem⟩)⟩

end Steps

/-! ## One check after the other -/

section Checks

variable {value : Value} {fault : Fault}

theorem write_escapes_iff : EscapesWith value.write fault ↔
    value.isWritable = false ∧ fault = Number.tooLong := by
  unfold Value.write
  cases value.isWritable with
  | true => simp
  | false => simpa using escapesWith_error_iff rfl

/-- A refusal escapes if the value cannot be shown. -/
theorem refuse_escapes_iff {α : Type} {option reason : String} :
    EscapesWith (refuse option reason value : Except Fault α) fault ↔
      value.isWritable = false ∧ fault = Number.tooLong := by
  rw [refuse, escapesWith_bind_iff, write_escapes_iff, or_iff_left]
  rintro ⟨shown, -, h⟩
  exact not_escapesWith_of_isPreset rfl h

theorem checkDatabase_escapes_iff : EscapesWith (checkDatabase value) fault ↔
    value.isWritable = false ∧ fault = Number.tooLong := by
  cases value with
  | text s =>
    simp only [checkDatabase, Value.isWritable]
    split
    · simpa using not_escapesWith_of_isPreset rfl
    · simp
  | _ => exact refuse_escapes_iff

theorem not_checkPassword_escapes : ¬EscapesWith (checkPassword value) fault := by
  unfold checkPassword
  split
  · split
    · exact not_escapesWith_of_isPreset rfl
    · exact not_escapesWith_ok
  · exact not_escapesWith_of_isPreset rfl

theorem checkPort_escapes_iff : EscapesWith (checkPort value) fault ↔
    value.isWritable = false ∧ fault = Number.tooLong := by
  cases value with
  | int n =>
    simp only [checkPort]
    split
    · next hrange => simp [Value.isWritable, Number.isWritable_of_port hrange]
    · exact refuse_escapes_iff
  | _ => exact refuse_escapes_iff

theorem checkWaitTimeout_escapes_iff : EscapesWith (checkWaitTimeout value) fault ↔
    (¬∃ seconds, IsWait value seconds) ∧ value.isWritable = false ∧ fault = Number.tooLong := by
  unfold checkWaitTimeout IsWait
  cases value.number? with
  | none => simp [refuse_escapes_iff]
  | some seconds =>
    cases hpositive : seconds.notPositive <;> simp [hpositive, refuse_escapes_iff]

theorem checkVersion_escapes_iff : EscapesWith (checkVersion value) fault ↔
    value.isWritable = false ∧ fault = Number.tooLong := by
  cases value with
  | null => simp [checkVersion, Value.isWritable]
  | text s => simp [checkVersion, Value.isWritable]
  | _ => exact refuse_escapes_iff

theorem checkStatement_escapes_iff : EscapesWith (checkStatement value) fault ↔
    value.isWritable = false ∧ fault = Number.tooLong := by
  cases value with
  | text s => simp [checkStatement, Value.isWritable]
  | _ => exact refuse_escapes_iff

theorem itemsOf_escapes_iff :
    EscapesWith (itemsOf value) fault ↔ value.items? = none ∧ fault = notIterable := by
  unfold itemsOf
  cases value.items? with
  | none => simpa using escapesWith_error_iff rfl
  | some items => simp

/-- What escapes from the items of a value is what escapes from the first that is not accepted. -/
theorem escapesWith_items_iff {α : Type} {f : Value → Except Fault α} :
    EscapesWith (do (← itemsOf value).mapM f) fault ↔ (value.items? = none ∧ fault = notIterable) ∨
      ∃ items item, value.items? = some items ∧
        items.find? (fun item => !(f item).isOk) = some item ∧ EscapesWith (f item) fault := by
  simp only [escapesWith_bind_iff, itemsOf_escapes_iff, itemsOf_eq_ok_iff]
  refine or_congr_right ⟨?_, ?_⟩
  · rintro ⟨items, hitems, hfault, hpreset⟩
    obtain ⟨item, hfind, hitem⟩ := mapM_eq_error_iff.1 hfault
    exact ⟨items, item, hitems, hfind, hitem, hpreset⟩
  · rintro ⟨items, item, hitems, hfind, hitem, hpreset⟩
    exact ⟨items, hitems, mapM_eq_error_iff.2 ⟨item, hfind, hitem⟩, hpreset⟩

theorem toDouble_escapes_iff {seconds : Number} :
    EscapesWith seconds.toDouble fault ↔
      seconds.toFloat? = none ∧ fault = Number.tooLarge := by
  unfold Number.toDouble
  cases seconds.toFloat? with
  | none => simpa using escapesWith_error_iff rfl
  | some x => simp

end Checks

/-! ## Queries files -/

/-- An item that is no path, and the fault of taking it for one. -/
inductive NoPath : Value → Fault → Prop where
  | noText {item : Value} :
      item.text? = none → NoPath item (.other .wrongType "a path has to be a text")
  | nul {path : String} : Path.hasNul path = true → NoPath (.text path) FileTree.nulInPath

/-- Queries files that let a fault escape. -/
inductive FilesEscape (tree : FileTree) (queriesFiles : Value) : Fault → Prop where
  /-- They cannot be run through. -/
  | noItems : queriesFiles.items? = none → FilesEscape tree queriesFiles notIterable
  /-- An item is no path, and all files before it can be read. -/
  | item {paths texts : List String} {item : Value} {rest : List Value} {fault : Fault} :
      queriesFiles.items? = some (paths.map .text ++ item :: rest) →
      List.Forall₂ tree.Reads paths texts → NoPath item fault →
      FilesEscape tree queriesFiles fault

section Files

variable {tree : FileTree} {value : Value} {fault : Fault}

theorem readQueriesFile_escapes_iff :
    EscapesWith (readQueriesFile tree value) fault ↔ NoPath value fault := by
  constructor
  · intro h
    cases value with
    | text path =>
      simp only [readQueriesFile] at h
      cases hread : tree.readText path with
      | ok text =>
        rw [hread] at h
        exact absurd h not_escapesWith_ok
      | error cause =>
        rw [hread] at h
        rcases FileTree.readText_error hread with hnul | hsystem | rfl
        · rw [FileTree.readText, if_pos hnul] at hread
          cases hread
          rw [(escapesWith_error_iff rfl).1 h]
          exact .nul hnul
        · refine absurd h (not_escapesWith_of_isPreset ?_)
          dsimp only
          split
          · rfl
          · rw [if_pos hsystem]
            rfl
        · exact absurd h (not_escapesWith_of_isPreset rfl)
    | _ =>
      rw [(escapesWith_error_iff rfl).1 h]
      exact .noText rfl
  · intro h
    cases h with
    | noText htext =>
      cases value with
      | text s => cases htext
      | _ => exact ⟨rfl, rfl⟩
    | nul hnul =>
      refine ⟨?_, rfl⟩
      rw [readQueriesFile, FileTree.readText, if_pos hnul]
      rfl

theorem readQueriesFiles_escapes_iff :
    EscapesWith (readQueriesFiles tree value) fault ↔ FilesEscape tree value fault := by
  simp only [readQueriesFiles, escapesWith_bind_iff, itemsOf_escapes_iff, itemsOf_eq_ok_iff,
    escapesWith_mapM_iff, readQueriesFile_eq_ok_iff, forall₂_map_iff, readQueriesFile_escapes_iff]
  constructor
  · rintro (⟨hnone, rfl⟩ | ⟨_, hitems, _, texts, item, rest, rfl, ⟨paths, rfl, hreads⟩, hitem⟩)
    · exact .noItems hnone
    · exact .item hitems hreads hitem
  · intro h
    cases h with
    | noItems hnone => exact .inl ⟨hnone, rfl⟩
    | item hitems hreads hitem =>
      exact .inr ⟨_, hitems, _, _, _, _, rfl, ⟨_, rfl, hreads⟩, hitem⟩

end Files

/-! ## Queries -/

/-- Queries that let a fault escape. -/
inductive QueriesEscape (queries : Value) : Fault → Prop where
  /-- They cannot be run through. -/
  | noItems : queries.items? = none → QueriesEscape queries notIterable
  /-- The first item that is no text cannot be shown. -/
  | item {statements : List String} {item : Value} {rest : List Value} :
      queries.items? = some (statements.map .text ++ item :: rest) → item.isWritable = false →
      QueriesEscape queries Number.tooLong

theorem queries_escape_iff {queries : Value} {fault : Fault} :
    EscapesWith (do (← itemsOf queries).mapM checkStatement) fault ↔
      QueriesEscape queries fault := by
  simp only [escapesWith_bind_iff, itemsOf_escapes_iff, itemsOf_eq_ok_iff, escapesWith_mapM_iff,
    ← mapM_eq_ok_iff, mapM_checkStatement_eq_ok_iff, checkStatement_escapes_iff]
  constructor
  · rintro (⟨hnone, rfl⟩ | ⟨_, hitems, _, statements, item, rest, rfl, rfl, hitem, rfl⟩)
    · exact .noItems hnone
    · exact .item hitems hitem
  · intro h
    cases h with
    | noItems hnone => exact .inl ⟨hnone, rfl⟩
    | item hitems hitem => exact .inr ⟨_, hitems, _, _, _, _, rfl, rfl, hitem, rfl⟩

theorem checkStatements_escapes_iff {tree : FileTree} {queries queriesFiles : Value}
    {fault : Fault} :
    EscapesWith (checkStatements tree queries queriesFiles) fault ↔ queries.text? = none ∧
      (FilesEscape tree queriesFiles fault ∨
        (∃ texts, AreFiles tree queriesFiles texts) ∧ QueriesEscape queries fault) := by
  unfold checkStatements
  cases queries.text? with
  | some s =>
    simp only [Option.isSome_some, if_true, reduceCtorEq, false_and, iff_false]
    exact not_escapesWith_of_isPreset rfl
  | none =>
    simp only [Option.isSome_none, Bool.false_eq_true, if_false, true_and, escapesWith_bind_iff,
      not_escapesWith_pure, and_false, exists_false, or_false, exists_and_right,
      readQueriesFiles_escapes_iff, readQueriesFiles_eq_ok_iff, ← queries_escape_iff]

/-! ## All checks -/

/-- The options that are checked before the queries fit. -/
structure Settled (options : Options) (seconds : Number) : Prop where
  database : IsDatabase options.database
  password : IsPassword options.password
  port : IsPort options.port
  waitTimeout : IsWait options.waitTimeout seconds
  version : IsVersion options.version

/-- The options that have their default values fit. -/
theorem settled_default : Settled {} (.real 30) where
  database := ⟨_, rfl, 'm', by decide, by decide⟩
  password := ⟨_, rfl, by decide⟩
  port := ⟨_, rfl, by decide, by decide⟩
  waitTimeout := ⟨rfl, rfl⟩
  version := .inl rfl

theorem areFiles_default (tree : FileTree) : AreFiles tree ({} : Options).queriesFiles [] :=
  ⟨[], rfl, .nil⟩

/-- Options whose checks let a fault escape. In each case the options that are checked earlier
fit. -/
inductive Escapes (tree : FileTree) (options : Options) : Fault → Prop where
  /-- The database is no text and cannot be shown. -/
  | database : options.database.isWritable = false → Escapes tree options Number.tooLong
  /-- The port is out of range and cannot be shown. -/
  | port : IsDatabase options.database → IsPassword options.password →
      options.port.isWritable = false → Escapes tree options Number.tooLong
  /-- The time to wait is refused and cannot be shown. -/
  | waitTimeout : IsDatabase options.database → IsPassword options.password →
      IsPort options.port → (¬∃ seconds, IsWait options.waitTimeout seconds) →
      options.waitTimeout.isWritable = false → Escapes tree options Number.tooLong
  /-- The image tag is no text and cannot be shown. -/
  | version {seconds : Number} : IsDatabase options.database → IsPassword options.password →
      IsPort options.port → IsWait options.waitTimeout seconds →
      options.version.isWritable = false → Escapes tree options Number.tooLong
  | queriesFiles {seconds : Number} {fault : Fault} : options.Settled seconds →
      options.queries.text? = none → FilesEscape tree options.queriesFiles fault →
      Escapes tree options fault
  | queries {seconds : Number} {texts : List String} {fault : Fault} : options.Settled seconds →
      options.queries.text? = none → AreFiles tree options.queriesFiles texts →
      QueriesEscape options.queries fault → Escapes tree options fault
  /-- All options fit, but the time to wait has no double. -/
  | tooLarge {seconds : Number} {texts statements : List String} : options.Settled seconds →
      AreFiles tree options.queriesFiles texts → AreStatements options.queries statements →
      seconds.toFloat? = none → Escapes tree options Number.tooLarge

theorem check_escapes_iff {tree : FileTree} {options : Options} {fault : Fault} :
    EscapesWith (options.check tree) fault ↔ Escapes tree options fault := by
  unfold check
  simp only [escapesWith_bind_iff, checkDatabase_escapes_iff, not_checkPassword_escapes,
    checkPort_escapes_iff, checkWaitTimeout_escapes_iff, checkVersion_escapes_iff,
    checkStatements_escapes_iff, toDouble_escapes_iff, not_escapesWith_pure,
    checkDatabase_eq_ok_iff, checkPassword_eq_ok_iff, checkPort_eq_ok_iff,
    checkWaitTimeout_eq_ok_iff, checkVersion_eq_ok_iff, checkStatements_eq_ok_iff]
  -- What the later checks do does not depend on the values that the earlier ones accept.
  simp only [false_or, and_false, exists_false, or_false, exists_and_left, exists_and_right,
    exists_eq, and_true, exists_port_iff]
  constructor
  · rintro (⟨hlong, rfl⟩ | ⟨hdatabase, hpassword, h⟩)
    · exact .database hlong
    rcases h with ⟨hlong, rfl⟩ | ⟨hport, h⟩
    · exact .port hdatabase hpassword hlong
    rcases h with ⟨hrefused, hlong, rfl⟩ | ⟨seconds, hwait, h⟩
    · exact .waitTimeout hdatabase hpassword hport hrefused hlong
    rcases h with ⟨hlong, rfl⟩ | ⟨hversion, h⟩
    · exact .version hdatabase hpassword hport hwait hlong
    have hsettled : options.Settled seconds := ⟨hdatabase, hpassword, hport, hwait, hversion⟩
    rcases h with ⟨htext, hfiles | ⟨⟨texts, htexts⟩, hqueries⟩⟩ |
      ⟨⟨_, texts, htexts, statements, hstatements, -⟩, hlarge, rfl⟩
    · exact .queriesFiles hsettled htext hfiles
    · exact .queries hsettled htext htexts hqueries
    · exact .tooLarge hsettled htexts hstatements hlarge
  · intro h
    cases h with
    | database hlong => exact .inl ⟨hlong, rfl⟩
    | port hdatabase hpassword hlong => exact .inr ⟨hdatabase, hpassword, .inl ⟨hlong, rfl⟩⟩
    | waitTimeout hdatabase hpassword hport hrefused hlong =>
      exact .inr ⟨hdatabase, hpassword, .inr ⟨hport, .inl ⟨hrefused, hlong, rfl⟩⟩⟩
    | version hdatabase hpassword hport hwait hlong =>
      exact .inr ⟨hdatabase, hpassword, .inr ⟨hport, .inr ⟨_, hwait, .inl ⟨hlong, rfl⟩⟩⟩⟩
    | queriesFiles hsettled htext hfiles =>
      obtain ⟨hdatabase, hpassword, hport, hwait, hversion⟩ := hsettled
      exact .inr ⟨hdatabase, hpassword, .inr ⟨hport, .inr ⟨_, hwait, .inr ⟨hversion,
        .inl ⟨htext, .inl hfiles⟩⟩⟩⟩⟩
    | queries hsettled htext htexts hqueries =>
      obtain ⟨hdatabase, hpassword, hport, hwait, hversion⟩ := hsettled
      exact .inr ⟨hdatabase, hpassword, .inr ⟨hport, .inr ⟨_, hwait, .inr ⟨hversion,
        .inl ⟨htext, .inr ⟨⟨_, htexts⟩, hqueries⟩⟩⟩⟩⟩⟩
    | tooLarge hsettled htexts hstatements hlarge =>
      obtain ⟨hdatabase, hpassword, hport, hwait, hversion⟩ := hsettled
      exact .inr ⟨hdatabase, hpassword, .inr ⟨hport, .inr ⟨_, hwait, .inr ⟨hversion,
        .inr ⟨⟨_, _, htexts, _, hstatements, rfl⟩, hlarge, rfl⟩⟩⟩⟩⟩

/-- Options are accepted or reported to the user unless they let a fault escape, and the faults that
escape are known exactly. -/
theorem check_settles_iff (tree : FileTree) (options : Options) :
    (((∃ config, options.check tree = .ok config) ∨
        ∃ fault, options.check tree = .error fault ∧ fault.isPreset = true) ↔
      ∀ fault, ¬Escapes tree options fault) ∧
      ∀ fault, (options.check tree = .error fault ∧ fault.isPreset = false) ↔
        Escapes tree options fault := by
  have hescapes : ∀ fault, EscapesWith (options.check tree) fault ↔ Escapes tree options fault :=
    fun _ => check_escapes_iff
  refine ⟨?_, hescapes⟩
  simp only [← hescapes, EscapesWith]
  cases options.check tree with
  | ok config => simp
  | error fault => simp

/-- Queries that are a number. -/
def numberAsQueries : Options where
  queries := .int 5

theorem numberAsQueries_escapes :
    (numberAsQueries.check {} = .error notIterable ∧ notIterable.isPreset = false) ∧
      ¬((∃ config, numberAsQueries.check {} = .ok config) ∨
        ∃ fault, numberAsQueries.check {} = .error fault ∧ fault.isPreset = true) := by
  have hescapes : Escapes {} numberAsQueries notIterable :=
    .queries { settled_default with } rfl (areFiles_default {}) (.noItems rfl)
  obtain ⟨hsettles, hfault⟩ := check_settles_iff {} numberAsQueries
  exact ⟨(hfault _).2 hescapes, fun h => hsettles.1 h _ hescapes⟩

/-! ## Reasons to come down

What brings the checks down is known without the order of the checks: there has to be a reason, and
a reason that stands alone among the defaults does bring them down. -/

theorem exists_noPath_iff {item : Value} :
    (∃ fault, NoPath item fault) ↔ ∀ path, item = .text path → Path.hasNul path = true := by
  constructor
  · rintro ⟨_, htext | hnul⟩ path h
    · rw [h] at htext
      cases htext
    · cases h
      exact hnul
  · intro h
    cases item with
    | text path => exact ⟨_, .nul (h path rfl)⟩
    | _ => exact ⟨_, .noText rfl⟩

theorem filesCrash_iff {tree : FileTree} {queriesFiles : Value} :
    FilesCrash tree queriesFiles ↔ ∃ fault, FilesEscape tree queriesFiles fault := by
  simp only [← readQueriesFiles_escapes_iff, readQueriesFiles, escapesWith_items_iff,
    readQueriesFile_escapes_iff]
  constructor
  · intro h
    cases h with
    | noItems hnone => exact ⟨_, .inl ⟨hnone, rfl⟩⟩
    | item hitems hfind hnul =>
      obtain ⟨fault, hitem⟩ := exists_noPath_iff.2 hnul
      exact ⟨fault, .inr ⟨_, _, hitems, hfind, hitem⟩⟩
  · rintro ⟨fault, ⟨hnone, -⟩ | ⟨items, item, hitems, hfind, hitem⟩⟩
    · exact .noItems hnone
    · exact .item hitems hfind (exists_noPath_iff.1 ⟨fault, hitem⟩)

theorem checkStatement_isOk (value : Value) :
    (checkStatement value).isOk = value.text?.isSome := by
  unfold checkStatement
  split
  · rfl
  · next hnone =>
    have htext : value.text? = none := by
      unfold Value.text?
      split
      · exact absurd rfl (hnone _)
      · rfl
    rw [htext]
    unfold refuse
    cases value.write <;> rfl

theorem statementsCrash_iff {queries : Value} :
    StatementsCrash queries ↔ ∃ fault, QueriesEscape queries fault := by
  simp only [← queries_escape_iff, escapesWith_items_iff, checkStatement_isOk, Option.not_isSome,
    checkStatement_escapes_iff]
  constructor
  · intro h
    cases h with
    | noItems hnone => exact ⟨_, .inl ⟨hnone, rfl⟩⟩
    | item hitems hfind hlong => exact ⟨_, .inr ⟨_, _, hitems, hfind, hlong, rfl⟩⟩
  · rintro ⟨fault, ⟨hnone, -⟩ | ⟨items, item, hitems, hfind, hlong, -⟩⟩
    · exact .noItems hnone
    · exact .item hitems hfind hlong

theorem Escapes.crash {tree : FileTree} {options : Options} {fault : Fault}
    (h : Escapes tree options fault) : options.Crash tree := by
  cases h with
  | database hlong => exact .database hlong
  | port _ _ hlong => exact .port hlong
  | waitTimeout _ _ _ hrefused hlong =>
    refine .waitTimeout (.refused (fun seconds hseconds => ?_) hlong)
    exact Bool.of_not_eq_false fun hpositive => hrefused ⟨seconds, hseconds, hpositive⟩
  | version _ _ _ _ hlong => exact .version hlong
  | queriesFiles _ _ hfiles => exact .files (filesCrash_iff.2 ⟨fault, hfiles⟩)
  | queries _ _ _ hqueries => exact .statements (statementsCrash_iff.2 ⟨fault, hqueries⟩)
  | tooLarge hsettled _ _ hlarge =>
    exact .waitTimeout (.tooLarge hsettled.waitTimeout.1 hsettled.waitTimeout.2 hlarge)

theorem check_answers (tree : FileTree) (options : Options) :
    Answers (options.check tree) Config.Valid (options.Crash tree) where
  value _ h := valid_of_check h
  crash _ h hpreset := (check_escapes_iff.1 ⟨h, hpreset⟩).crash

/-- The result is a fault that is not meant for the user. -/
def CrashesWith {α : Type} (result : Except Fault α) : Prop :=
  ∃ fault, result = .error fault ∧ fault.isPreset = false

theorem CrashesWith.bind {α β : Type} {m : Except Fault α} {f : α → Except Fault β}
    (h : CrashesWith m) : CrashesWith (m >>= f) := by
  obtain ⟨fault, rfl, hcrash⟩ := h
  exact ⟨fault, rfl, hcrash⟩

section Alone

variable (tree : FileTree) {value : Value}

theorem check_crashes_of_port {n : Int} (h : Number.isWritable n = false) :
    CrashesWith ({ port := .int n : Options }.check tree) :=
  ⟨_, check_escapes_iff.2 (.port settled_default.database settled_default.password h)⟩

theorem check_crashes_of_waitTimeout (h : TimeoutCrash value) :
    CrashesWith ({ waitTimeout := value : Options }.check tree) := by
  cases h with
  | refused hnone hshown =>
    refine ⟨_, check_escapes_iff.2 (.waitTimeout settled_default.database settled_default.password
      settled_default.port ?_ hshown)⟩
    rintro ⟨seconds, hseconds, hpositive⟩
    simp [hnone seconds hseconds] at hpositive
  | tooLarge hseconds hpositive hlarge =>
    exact ⟨_, check_escapes_iff.2 (.tooLarge
      { settled_default with waitTimeout := ⟨hseconds, hpositive⟩ } (areFiles_default tree)
      (⟨rfl, rfl⟩ : AreStatements _ []) hlarge)⟩

theorem check_crashes_of_queries (h : StatementsCrash value) :
    CrashesWith ({ queries := value : Options }.check tree) := by
  have htext : value.text? = none := by
    cases value with
    | text s => exact absurd h (not_statementsCrash rfl (List.forall_mem_map.2 fun _ _ => rfl))
    | _ => rfl
  obtain ⟨fault, hfault⟩ := statementsCrash_iff.1 h
  exact ⟨fault, check_escapes_iff.2
    (.queries { settled_default with } htext (areFiles_default tree) hfault)⟩

theorem check_crashes_of_queriesFiles (h : FilesCrash tree value) :
    CrashesWith ({ queriesFiles := value : Options }.check tree) := by
  obtain ⟨fault, hfault⟩ := filesCrash_iff.1 h
  exact ⟨fault, check_escapes_iff.2 (.queriesFiles { settled_default with } rfl hfault)⟩

end Alone

end SeededServer.Options
