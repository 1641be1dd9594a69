import SeededServer.Proofs.Checking
import SeededServer.Proofs.DriverFailures
import SeededServer.Proofs.Entries

/-!
# Messages quote their arguments

A message is its template with every slot filled at once. The same text comes out if the written
template is gone through a single time from left to right: what fills a slot is not read again, so
an argument that looks like a slot stays as it is. The first slot that cannot be filled decides the
fault. In particular a failing seed statement stands unchanged in the message that reports it.

## Main definitions

* `Advice.substitute` — a template with a text for each slot.
* `Advice.scan` — going once through a written template.
* `Advice.Quotes` — what is known about the message of a topic.
* `Seeding.ReportsStatement` — the fault that quotes a failing statement.
-/
namespace SeededServer

namespace Advice

/-! ## Filling the slots -/

/-- The slots of a template in order. -/
def slots (pieces : List Piece) : List String :=
  pieces.filterMap fun
    | .words _ => none
    | .slot name => some name

/-- The template with the given text for each of its slots. -/
def substitute (texts : String → String) (pieces : List Piece) : String :=
  String.join <| pieces.map fun
    | .words s => s
    | .slot name => texts name

/-- What went wrong and what to do next. -/
def Topic.template (topic : Topic) : List Piece :=
  topic.what ++ .words " Suggested action: " :: topic.next

section Expand

variable {args : List (String × Value)} {name : String} {pieces : List Piece}

theorem expand_cons (piece : Piece) : expand args (piece :: pieces) = do
    let text ← pieceText args piece
    return text ++ (← expand args pieces) := by
  unfold expand
  rw [List.mapM_cons]
  cases pieceText args piece with
  | error fault => rfl
  | ok text =>
    cases pieces.mapM (pieceText args) with
    | error fault => rfl
    | ok texts => exact congrArg Except.ok String.join_cons

theorem expand_append (first second : List Piece) : expand args (first ++ second) = do
    return (← expand args first) ++ (← expand args second) := by
  induction first with
  | nil =>
    have hnil : expand args [] = .ok "" := rfl
    rw [List.nil_append, hnil]
    cases expand args second with
    | error fault => rfl
    | ok last => exact congrArg Except.ok String.empty_append.symm
  | cons piece rest ih =>
    rw [List.cons_append, expand_cons, expand_cons, ih]
    cases pieceText args piece with
    | error fault => rfl
    | ok text =>
      cases expand args rest with
      | error fault => rfl
      | ok filled =>
        cases expand args second with
        | error fault => rfl
        | ok last => exact congrArg Except.ok String.append_assoc.symm

/-- With a text for every slot, all slots are filled at once. -/
theorem expand_eq_ok {texts : String → String}
    (h : ∀ name ∈ slots pieces, slotText args name = .ok (texts name)) :
    expand args pieces = .ok (substitute texts pieces) := by
  induction pieces with
  | nil => rfl
  | cons piece rest ih =>
    rw [expand_cons]
    cases piece with
    | words s =>
      rw [ih h]
      exact congrArg Except.ok String.join_cons.symm
    | slot name =>
      obtain ⟨hname, hrest⟩ := List.forall_mem_cons.1 h
      rw [pieceText, hname, ih hrest]
      exact congrArg Except.ok String.join_cons.symm

/-- The first slot that cannot be filled decides the fault. -/
theorem expand_eq_error {before after : List String} {fault : Fault}
    (hslots : slots pieces = before ++ name :: after)
    (hbefore : ∀ earlier ∈ before, ∃ text, slotText args earlier = .ok text)
    (hname : slotText args name = .error fault) : expand args pieces = .error fault := by
  -- words ask for no slot; a slot is either one of those before the failing one or that one itself
  induction pieces generalizing before with
  | nil => cases before <;> cases hslots
  | cons piece rest ih =>
    rw [expand_cons]
    cases piece with
    | words s => rw [ih hslots hbefore]; rfl
    | slot first =>
      cases before with
      | nil =>
        cases hslots
        rw [pieceText, hname]
        rfl
      | cons earlier before =>
        obtain ⟨rfl, hrest⟩ := List.cons_eq_cons.1 hslots
        obtain ⟨⟨text, htext⟩, hbefore⟩ := List.forall_mem_cons.1 hbefore
        rw [pieceText, htext, ih hrest hbefore]
        rfl

/-- Arguments that no slot asks for do not matter. -/
theorem expand_congr {others : List (String × Value)}
    (h : ∀ name ∈ slots pieces, Entries.get? others name = Entries.get? args name) :
    expand others pieces = expand args pieces := by
  induction pieces with
  | nil => rfl
  | cons piece rest ih =>
    rw [expand_cons, expand_cons]
    cases piece with
    | words s => rw [ih h]; rfl
    | slot name =>
      obtain ⟨hname, hrest⟩ := List.forall_mem_cons.1 h
      rw [ih hrest, pieceText, pieceText, slotText, slotText, hname]

end Expand

/-! ## Going through a written template -/

/-- How a piece is written: a slot is a name in braces. -/
def Piece.written : Piece → List Char
  | .words s => s.toList
  | .slot name => '\x7b' :: name.toList ++ ['\x7d']

/-- No brace stands in a piece but those around a slot. -/
def Piece.IsPlain : Piece → Prop
  | .words s | .slot s => '\x7b' ∉ s.toList ∧ '\x7d' ∉ s.toList

instance (piece : Piece) : Decidable piece.IsPlain := by
  cases piece <;> exact inferInstanceAs (Decidable (_ ∧ _))

/-- Goes once through a written template from left to right. A name that is being read is
remembered; when it is complete its text is put in, and the reading goes on behind it. -/
def scan (fill : String → Except Fault String) :
    (name? : Option (List Char)) → List Char → Except Fault (List Char)
  | none, [] => .ok []
  | some _, [] => .error (.other .badValue "expected '\x7d' before end of string")
  | none, c :: rest =>
    if c = '\x7b' then scan fill (some []) rest else return c :: (← scan fill none rest)
  | some name, c :: rest =>
    if c = '\x7d' then do
      let text ← fill (String.ofList name)
      return text.toList ++ (← scan fill none rest)
    else scan fill (some (name ++ [c])) rest

section Scan

variable {fill : String → Except Fault String}

theorem scan_words {cs : List Char} (h : '\x7b' ∉ cs) (rest : List Char) :
    scan fill none (cs ++ rest) = return cs ++ (← scan fill none rest) := by
  induction cs with
  | nil => cases hrest : scan fill none rest <;> simp [hrest]
  | cons c cs ih =>
    obtain ⟨hc, hcs⟩ := not_or.1 (mt List.mem_cons.2 h)
    rw [List.cons_append, scan, if_neg (Ne.symm hc), ih hcs]
    cases scan fill none rest <;> rfl

theorem scan_name {cs : List Char} (h : '\x7d' ∉ cs) (done rest : List Char) :
    scan fill (some done) (cs ++ '\x7d' :: rest) = do
      let text ← fill (String.ofList (done ++ cs))
      return text.toList ++ (← scan fill none rest) := by
  induction cs generalizing done with
  | nil => rw [List.nil_append, scan, if_pos rfl, List.append_nil]
  | cons c cs ih =>
    obtain ⟨hc, hcs⟩ := not_or.1 (mt List.mem_cons.2 h)
    rw [List.cons_append, scan, if_neg (Ne.symm hc), ih hcs, List.append_assoc]
    rfl

/-- A template is filled by going through it once. -/
theorem scan_written {args : List (String × Value)} {pieces : List Piece}
    (hplain : ∀ piece ∈ pieces, piece.IsPlain) :
    scan (slotText args) none (pieces.flatMap Piece.written) =
      (expand args pieces).map String.toList := by
  -- behind a piece no name is being read, whatever the text that was put in
  induction pieces with
  | nil => rfl
  | cons piece rest ih =>
    obtain ⟨hpiece, hrest⟩ := List.forall_mem_cons.1 hplain
    rw [List.flatMap_cons, expand_cons]
    cases piece with
    | words s =>
      rw [Piece.written, scan_words hpiece.1, ih hrest, pieceText]
      cases expand args rest with
      | error fault => rfl
      | ok filled => exact congrArg Except.ok String.toList_append.symm
    | slot name =>
      rw [Piece.written, List.cons_append, List.cons_append, List.append_assoc,
        List.singleton_append, scan, if_pos rfl, scan_name hpiece.2, ih hrest, pieceText,
        List.nil_append, String.ofList_toList]
      cases slotText args name with
      | error fault => rfl
      | ok text =>
        cases expand args rest with
        | error fault => rfl
        | ok filled => exact congrArg Except.ok String.toList_append.symm

end Scan

/-! ## Messages -/

namespace Topic

/-- The slots of a topic in order. -/
def slots (topic : Topic) : List String := Advice.slots topic.template

/-- How the template of a topic is written. -/
def written (topic : Topic) : List Char := topic.template.flatMap Piece.written

theorem ofKey?_key (topic : Topic) : ofKey? topic.key = some topic := by
  cases topic <;> decide

theorem ofKey?_eq_none {key : String} (h : ∀ topic : Topic, topic.key ≠ key) :
    ofKey? key = none := by
  simpa [ofKey?] using fun topic _ => h topic

theorem template_isPlain (topic : Topic) : ∀ piece ∈ topic.template, piece.IsPlain := by
  cases topic <;> decide +kernel

end Topic

-- what the catalogue says about a failing seed statement, as it is written
example : (Topic.what .seedStatementFailed).flatMap Piece.written =
    "Seed statement #\x7bindex\x7d failed: \x7bstatement\x7d (\x7bcause\x7d)".toList := by
  decide

section Messages

variable {key : String} {args : List (String × Value)}

theorem any_code_eq_false (hcode : ∀ entry ∈ args, entry.1 ≠ "code") :
    args.any (·.1 = "code") = false := by
  simpa using fun name value h => hcode (name, value) h

theorem messageFor_topic (hcode : ∀ entry ∈ args, entry.1 ≠ "code") (topic : Topic) :
    messageFor topic.key args = expand args topic.template := by
  have hmessage : messageFor topic.key args = do
      return (← expand args topic.what) ++ " Suggested action: " ++ (← expand args topic.next) := by
    rw [messageFor, any_code_eq_false hcode, topic.ofKey?_key]
    rfl
  rw [hmessage, Topic.template, expand_append, expand_cons]
  cases expand args topic.what with
  | error fault => rfl
  | ok what =>
    cases expand args topic.next with
    | error fault => rfl
    | ok next => exact congrArg Except.ok String.append_assoc

theorem substitute_template (texts : String → String) (topic : Topic) :
    substitute texts topic.template =
      substitute texts topic.what ++ " Suggested action: " ++ substitute texts topic.next := by
  unfold substitute Topic.template
  rw [List.map_append, List.map_cons, String.join_append, String.join_cons, String.append_assoc]

/-- What is known about the message of a topic with some arguments. -/
structure Quotes (topic : Topic) (args : List (String × Value)) : Prop where
  /-- It comes out of going once through the written template. -/
  scanned : (messageFor topic.key args).map String.toList =
    scan (slotText args) none topic.written
  /-- If every slot has an argument, all slots are filled with the texts of their arguments. -/
  filled (texts : String → String) :
    (∀ name ∈ topic.slots, ∃ value, Entries.get? args name = some value ∧
      value.display = .ok (texts name)) →
    messageFor topic.key args = .ok
      (substitute texts topic.what ++ " Suggested action: " ++ substitute texts topic.next)
  /-- The first slot that has no argument is reported. -/
  missing (before : List String) (name : String) (after : List String) :
    topic.slots = before ++ name :: after →
    (∀ earlier ∈ before, ∃ text, slotText args earlier = .ok text) →
    Entries.get? args name = none →
    messageFor topic.key args = .error (.other .missingKey name)
  /-- An argument that cannot be written is the only other obstacle. -/
  unwritable (before : List String) (name : String) (after : List String) (value : Value)
    (fault : Fault) :
    topic.slots = before ++ name :: after →
    (∀ earlier ∈ before, ∃ text, slotText args earlier = .ok text) →
    Entries.get? args name = some value → value.display = .error fault →
    messageFor topic.key args = .error fault
  /-- Arguments that no slot asks for do not matter. -/
  extra (others : List (String × Value)) : (∀ entry ∈ others, entry.1 ≠ "code") →
    (∀ name ∈ topic.slots, Entries.get? others name = Entries.get? args name) →
    messageFor topic.key others = messageFor topic.key args

theorem slotText_eq_ok_iff {name text : String} : slotText args name = .ok text ↔
    ∃ value, Entries.get? args name = some value ∧ value.display = .ok text := by
  unfold slotText
  cases Entries.get? args name <;> simp

theorem quotes (hcode : ∀ entry ∈ args, entry.1 ≠ "code") (topic : Topic) :
    Quotes topic args where
  scanned := by
    rw [messageFor_topic hcode, Topic.written, scan_written topic.template_isPlain]
  filled texts h := by
    rw [messageFor_topic hcode, ← substitute_template]
    exact expand_eq_ok fun name hname => slotText_eq_ok_iff.2 (h name hname)
  missing before name after hslots hbefore hname := by
    rw [messageFor_topic hcode]
    exact expand_eq_error hslots hbefore (by rw [slotText, hname])
  unwritable before name after value fault hslots hbefore hname hvalue := by
    rw [messageFor_topic hcode]
    refine expand_eq_error hslots hbefore ?_
    rw [slotText, hname]
    exact hvalue
  extra others hothers h := by
    rw [messageFor_topic hothers, messageFor_topic hcode]
    exact expand_congr h

/-- For texts that fill all slots the catalogue has the message that a fault of the topic bears. -/
theorem messageFor_texts {topic : Topic} {texts : List (String × String)}
    (hcode : ∀ entry ∈ texts, entry.1 ≠ "code")
    (hslots : ∀ name ∈ topic.slots, name ∈ texts.map Prod.fst) :
    messageFor topic.key (texts.map fun entry => (entry.1, .text entry.2)) =
      .ok (message topic texts) := by
  have hquotes : Quotes topic (texts.map fun entry => (entry.1, .text entry.2)) :=
    quotes (List.forall_mem_map.2 hcode) topic
  refine hquotes.filled (fun name => (argument? texts name).getD "") fun name hname => ?_
  rw [Entries.get?_mapValues]
  change ∃ value, (argument? texts name).map Value.text = some value ∧ _
  cases hargument : argument? texts name with
  | none => exact absurd (hslots name hname) (Entries.get?_eq_none_iff.1 hargument)
  | some text => exact ⟨.text text, rfl, rfl⟩

/-- A key that the catalogue does not have is reported. -/
theorem messageFor_unknown (hcode : ∀ entry ∈ args, entry.1 ≠ "code")
    (h : ∀ topic : Topic, topic.key ≠ key) : messageFor key args =
      .error (.other .missingKey ("Unknown error catalog key: " ++ key)) := by
  rw [messageFor, any_code_eq_false hcode, Topic.ofKey?_eq_none h]
  rfl

end Messages

end Advice

/-! ## Seed statements -/

theorem failures_of_dialogue {events : List Event} {fault : Fault}
    (h : fault ∈ failures (dialogue events)) : fault ∈ failures events := by
  obtain ⟨e, he, hfault⟩ := List.mem_filterMap.1 h
  exact List.mem_filterMap.2 ⟨e, List.mem_of_mem_filter he, hfault⟩

namespace Seeding

/-- The fault is about one of the statements, which the driver refused. Its message is the one of
the catalogue, and it holds the statement as it is. -/
def ReportsStatement (statements : List String) (fault : Fault) : Prop :=
  ∃ (index : Nat) (statement : String) (cause : Fault) (message : String),
    statements[index]? = some statement ∧ cause.isDriver = true ∧
    Advice.messageFor "seed_statement_failed" [("index", .text (Number.intText index)),
      ("statement", .text statement), ("cause", .text cause.text)] = .ok message ∧
    message = "Seed statement #" ++ Number.intText index ++ " failed: " ++ statement ++ " ("
      ++ cause.text ++ ") Suggested action: Fix the statement. "
      ++ "Statements before it were already applied and are not rolled back." ∧
    fault = .preset (.seed statement index) message (some cause)

theorem statementFailed_reports {statements : List String} {index : Nat} {statement : String}
    (h : statements[index]? = some statement) {cause : Fault} (hcause : cause.isDriver = true) :
    ReportsStatement statements (statementFailed index statement cause) := by
  let texts : List (String × String) :=
    [("index", Number.intText index), ("statement", statement), ("cause", cause.text)]
  have hcode : ∀ entry ∈ texts, entry.1 ≠ "code" := by simp [texts]
  have hslots : ∀ name ∈ Advice.Topic.slots .seedStatementFailed, name ∈ texts.map Prod.fst := by
    simp [texts, Advice.Topic.slots, Advice.slots, Advice.Topic.template, Advice.Topic.what,
      Advice.Topic.next]
  refine ⟨index, statement, cause, Advice.message .seedStatementFailed texts, h, hcause,
    Advice.messageFor_texts hcode hslots, ?_, rfl⟩
  simp [texts, Advice.message, Advice.fill, Advice.Topic.what, Advice.Topic.next, Advice.argument?,
    String.append_assoc]

/-- A fault is reported in its own way if it is the driver's own, and is passed on as it is
otherwise. -/
theorem reported_cases (f : Fault → Fault) (fault : Fault) :
    (fault.isDriver = true ∧ fault.reported f = f fault) ∨ fault.reported f = fault := by
  cases hdriver : fault.isDriver with
  | true => exact .inl ⟨rfl, fault.reported_of_isDriver hdriver f⟩
  | false => exact .inr (if_neg (by simp [hdriver]))

/-- In the session with the database, a fault that does not come from the server as it is reports
one of the statements. -/
theorem applying_reports (database : String) (statements : List String) (v : World) {fault : Fault}
    (h : (applying database statements v).outcome = .raised fault) :
    fault ∈ failures (dialogue (applying database statements v).events) ∨
      ReportsStatement statements fault := by
  have hends := applying_dialogue database statements v
  rw [h] at hends
  generalize dialogue (applying database statements v).events = row at hends
  cases hends with
  | noCursor => exact .inl (by simp [Event.failure?])
  | failed before statement rest cause hsplit =>
    rcases reported_cases (statementFailed before.length statement) cause with
      ⟨hdriver, hreported⟩ | hreported
    · rw [hreported]
      exact .inr (statementFailed_reports (by simp [hsplit]) hdriver)
    · rw [hreported]
      exact .inl (by simp [Event.failure?])

/-- A fault about a seed statement comes from the server as it is, or it reports the statement. -/
theorem runStatements_reports (access : Access) (address database : String)
    (statements : List String) (w : World) {statement : String} {index : Nat} {message : String}
    {cause : Option Fault}
    (h : (runStatements access address database statements w).outcome =
      .raised (.preset (.seed statement index) message cause)) :
    .preset (.seed statement index) message cause ∈
        failures (runStatements access address database statements w).events ∨
      ReportsStatement statements (.preset (.seed statement index) message cause) := by
  cases haddress : Address.split address with
  | error fault =>
    have hmalformed : (runStatements access address database statements w).outcome =
        .raised fault := by
      unfold runStatements Access.withSession Access.connect
      rw [haddress]
      rfl
    rw [hmalformed] at h
    cases h
    unfold Address.split at haddress
    split at haddress <;> cases haddress
  | ok parts =>
    obtain ⟨host, port⟩ := parts
    have hends : (applying database statements).Ends :=
      Run.Ends.exchange.bind fun _ => runFrom_ends database 0 statements
    have hcourse := access.withSession_course database haddress hends w
    obtain ⟨hrow, houtcome⟩ := Run.bind_log
      (m := access.withSession address database (applying database statements)) .info
      ("Applied " ++ Number.intText statements.length ++ " seed statement(s) to " ++ database) w
    have hsession : (access.withSession address database (applying database statements) w).outcome =
        .raised (.preset (.seed statement index) message cause) := houtcome.symm.trans h
    refine Or.imp_left (fun hfault => failures_of_dialogue (hrow ▸ hfault)) ?_
    generalize dialogue (access.withSession address database
      (applying database statements) w).events = row at hcourse ⊢
    generalize (access.withSession address database
      (applying database statements) w).outcome = outcome at hcourse hsession
    cases hcourse with
    | refused fault =>
      have hraised := Outcome.raised.inj hsession
      rcases reported_cases (Advice.connectionFailed address database) fault with
        ⟨-, hreported⟩ | hreported
      · rw [hreported] at hraised
        cases hraised
      · rw [hreported] at hraised
        exact .inl (by simp [Event.failure?, hraised])
    | closed v =>
      refine Or.imp_left (fun hfault => ?_) (applying_reports database statements v hsession)
      simp [hfault]
    | unclosed v fault =>
      exact .inl (by simp [Event.failure?, Outcome.raised.inj hsession])

end Seeding

namespace Advice

/-- Arguments for a failing statement, two of which look like templates. -/
def bracedArguments : List (String × Value) :=
  [("index", .int 3), ("statement", .text "select '\x7bcause\x7d', '\x7b\x7b0'"),
    ("cause", .text "\x7bstatement\x7d is \x7d"), ("spare", .null)]

end Advice

end SeededServer
