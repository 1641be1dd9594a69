import SeededServer.Proofs.EscapingFaults
import SeededServer.Proofs.SettingsFiles

/-!
# Faults that escape the configuration file

A file that cannot be used is reported as a preset fault that names it, whether it is missing,
cannot be read or is not well formed. Three faults escape all the same: the path is looked up outside of
the handler, the handler does not know bytes that are no UTF-8, and the keys of a mapping are put in
order and joined as if they were texts.

## Main definitions

* `ConfigFile.FailsAsMarkup` — a reader of documents fails with nothing but markup faults.
* `ConfigFile.LoadEscapes` — the faults that a file lets escape.
-/
namespace SeededServer

open Options (EscapesWith not_escapesWith_ok not_escapesWith_of_isPreset escapesWith_error_iff
  escapesWith_bind_iff)

namespace FileTree

variable {tree : FileTree} {path : String} {fault : Fault}

/-- Looking a path up fails only if the operating system does not do it. -/
theorem exists?_eq_error_iff : tree.exists? path = .error fault ↔
    Path.hasNul path = false ∧ tree.find (.ofString path) = .error (.outside .system) ∧
      fault = .outside .system := by
  unfold FileTree.exists?
  cases Path.hasNul path with
  | true => simp
  | false =>
    cases hfind : tree.find (.ofString path) with
    | ok node => simp
    | error cause =>
      cases find_error hfind with
      | missingFile => simp [Fault.outside]
      | notDirectory => simp [Fault.outside]
      | system => simp [Fault.outside, eq_comm]

/-- There is something at a path if it leads to a file or a directory. -/
theorem exists?_eq_true_iff : tree.exists? path = .ok true ↔
    Path.hasNul path = false ∧ ∃ node, tree.find (.ofString path) = .ok node := by
  unfold FileTree.exists?
  cases Path.hasNul path with
  | true => simp
  | false =>
    cases hfind : tree.find (.ofString path) with
    | ok node => simp
    | error cause => cases find_error hfind <;> simp [Fault.outside]

/-- The path leads to a file whose bytes are no UTF-8. -/
def IsUndecodable (tree : FileTree) (path : String) : Prop :=
  ∃ content, tree.find (.ofString path) = .ok (.file content) ∧
    ∀ written : String, content ≠ written.toUTF8

/-- If there is something at a path, reading it fails because it is a directory or no UTF-8. -/
theorem readText_eq_error_iff (h : tree.exists? path = .ok true) :
    tree.readText path = .error fault ↔
      (tree.find (.ofString path) = .ok .directory ∧ fault = .outside .directory) ∨
        (tree.IsUndecodable path ∧ fault = .outside .undecodable) := by
  obtain ⟨hnul, node, hfind⟩ := exists?_eq_true_iff.1 h
  unfold readText IsUndecodable
  rw [hnul, hfind]
  cases node with
  | directory => simp [bind, Except.bind, eq_comm]
  | file content =>
    have hdecode : decode content = .error fault ↔
        (∀ written : String, content ≠ written.toUTF8) ∧ fault = .outside .undecodable := by
      unfold decode
      simp only [ne_eq, ← fromUTF8?_eq_some_iff]
      cases String.fromUTF8? content with
      | none => simp [eq_comm]
      | some written => simp
    simpa [bind, Except.bind] using hdecode

theorem readText_undecodable_iff (h : tree.exists? path = .ok true) :
    tree.readText path = .error (.outside .undecodable) ↔ tree.IsUndecodable path := by
  simp [readText_eq_error_iff h, Fault.outside]

end FileTree

namespace ConfigFile

/-- The fault of a key that is no text. -/
def keyNoText : Fault := .other .wrongType "a key has to be a text"

/-- A reader of documents that fails with nothing but markup faults. -/
def FailsAsMarkup (parse : String → Except Fault Value) : Prop :=
  ∀ text fault, parse text = .error fault → ∃ message, fault = .other .markup message

/-- The faults that the file at a path lets escape. -/
inductive LoadEscapes (parse : String → Except Fault Value) (tree : FileTree) (path : String) :
    Fault → Prop
  /-- The operating system does not look the path up. -/
  | lookup : Path.hasNul path = false → tree.find (.ofString path) = .error (.outside .system) →
      LoadEscapes parse tree path (.outside .system)
  /-- The file is no UTF-8. -/
  | undecodable : Path.hasNul path = false → tree.IsUndecodable path →
      LoadEscapes parse tree path (.outside .undecodable)
  /-- The document is a mapping, and a key of it is no text. -/
  | key {text : String} {entries : List (Value × Value)} {entry : Value × Value} :
      tree.Reads path text → parse text = .ok (.mapping entries) → entry ∈ entries →
      entry.1.text? = none → LoadEscapes parse tree path keyNoText

/-! ## Roots -/

section Roots

variable {fault : Fault} {settings : Settings}

theorem not_ofEntries_escapes : ¬EscapesWith (ofEntries settings) fault := by
  unfold ofEntries
  split
  · exact not_escapesWith_ok
  · exact not_escapesWith_of_isPreset rfl
  · exact not_escapesWith_of_isPreset rfl

theorem textEntries?_eq_none_iff {entries : List (Value × Value)} :
    textEntries? entries = none ↔ ∃ entry ∈ entries, entry.1.text? = none := by
  unfold textEntries?
  induction entries with
  | nil => simp
  | cons entry rest ih =>
    rw [List.mapM_cons]
    cases hkey : entry.1.text? with
    | none => simp [hkey]
    | some key =>
      have hskip : (∃ e ∈ entry :: rest, e.1.text? = none) ↔ ∃ e ∈ rest, e.1.text? = none := by
        simp [hkey]
      rw [hskip, ← ih]
      cases rest.mapM fun entry => entry.1.text?.map (·, entry.2) <;> simp

theorem ofRoot_escapes_iff {root : Value} : EscapesWith (ofRoot root) fault ↔
    (∃ entries, root = .mapping entries ∧ ∃ entry ∈ entries, entry.1.text? = none) ∧
      fault = keyNoText := by
  cases root with
  | mapping entries =>
    simp only [ofRoot, Value.mapping.injEq, exists_eq_left', ← textEntries?_eq_none_iff]
    cases textEntries? entries with
    | none => simpa [keyNoText] using escapesWith_error_iff rfl
    | some settings => simpa using not_ofEntries_escapes
  | null => simp [ofRoot]
  | _ => simpa [ofRoot] using not_escapesWith_of_isPreset rfl

end Roots

/-! ## Files -/

section Files

variable {parse : String → Except Fault Value} {tree : FileTree} {path : String} {fault : Fault}

theorem readRoot_eq_ok_iff {shown : String} {root : Value} :
    readRoot parse tree path shown = .ok root ↔
      ∃ text, tree.Reads path text ∧ parse text = .ok root := by
  have hread : readRoot parse tree path shown = .ok root ↔
      tree.readText path >>= parse = .ok root := by
    unfold readRoot
    cases tree.readText path >>= parse <;> simp [Except.mapError]
  simp only [hread, bind_eq_ok_iff, FileTree.readText_eq_ok_iff]

/-- Of a file that is there, nothing escapes but bytes that are no UTF-8. -/
theorem readRoot_escapes_iff (hparse : FailsAsMarkup parse) (hexists : tree.exists? path = .ok true)
    {shown : String} : EscapesWith (readRoot parse tree path shown) fault ↔
      tree.IsUndecodable path ∧ fault = .outside .undecodable := by
  rw [← FileTree.readText_undecodable_iff hexists, readRoot]
  cases hread : tree.readText path with
  | ok text =>
    simp only [reduceCtorEq, false_and, iff_false]
    change ¬EscapesWith ((parse text).mapError _) fault
    cases hroot : parse text with
    | ok root => exact not_escapesWith_ok
    | error cause =>
      obtain ⟨message, rfl⟩ := hparse text cause hroot
      exact not_escapesWith_of_isPreset rfl
  | error cause =>
    -- a directory is a fault of the system, which the handler knows
    rcases (FileTree.readText_eq_error_iff hexists).1 hread with ⟨-, rfl⟩ | ⟨-, rfl⟩
    · simp only [Fault.outside, Except.error.injEq, Fault.other.injEq, reduceCtorEq, false_and,
        iff_false]
      exact not_escapesWith_of_isPreset rfl
    · simp only [true_and]
      exact escapesWith_error_iff rfl

theorem loadShown_escapes_iff (hparse : FailsAsMarkup parse) {shown : String} :
    EscapesWith (loadShown parse tree path shown) fault ↔ LoadEscapes parse tree path fault := by
  unfold loadShown
  rw [escapesWith_bind_iff]
  constructor
  · rintro (⟨herror, -⟩ | ⟨found, hfound, hrest⟩)
    · obtain ⟨hnul, hfind, rfl⟩ := FileTree.exists?_eq_error_iff.1 herror
      exact .lookup hnul hfind
    · cases found with
      | false => exact absurd hrest (not_escapesWith_of_isPreset rfl)
      | true =>
        rw [if_pos rfl, escapesWith_bind_iff, readRoot_escapes_iff hparse hfound] at hrest
        rcases hrest with ⟨hundecodable, rfl⟩ | ⟨root, hroot, hescapes⟩
        · exact .undecodable (FileTree.exists?_eq_true_iff.1 hfound).1 hundecodable
        · obtain ⟨text, hreads, hparsed⟩ := readRoot_eq_ok_iff.1 hroot
          obtain ⟨⟨entries, rfl, entry, hentry, hkey⟩, rfl⟩ := ofRoot_escapes_iff.1 hescapes
          exact .key hreads hparsed hentry hkey
  · intro h
    cases h with
    | lookup hnul hfind =>
      exact .inl ⟨FileTree.exists?_eq_error_iff.2 ⟨hnul, hfind, rfl⟩, rfl⟩
    | undecodable hnul hundecodable =>
      obtain ⟨content, hfind, -⟩ := id hundecodable
      have hfound := FileTree.exists?_eq_true_iff.2 ⟨hnul, _, hfind⟩
      refine .inr ⟨true, hfound, ?_⟩
      rw [if_pos rfl, escapesWith_bind_iff, readRoot_escapes_iff hparse hfound]
      exact .inl ⟨hundecodable, rfl⟩
    | key hreads hparsed hentry hkey =>
      refine .inr ⟨true, hreads.exists?, ?_⟩
      rw [if_pos rfl, escapesWith_bind_iff]
      exact .inr ⟨_, readRoot_eq_ok_iff.2 ⟨_, hreads, hparsed⟩,
        ofRoot_escapes_iff.2 ⟨⟨_, rfl, _, hentry, hkey⟩, rfl⟩⟩

theorem allSupported_of_load {settings : Settings}
    (h : load parse tree (some path) = .ok settings) : AllSupported settings :=
  unknownKeys_eq_nil_iff.1 (ofEntries_eq_ok_iff.1 (ofEntries_of_load h)).1

/-- The empty path stands for no file; as a path it leads to the working directory. -/
theorem not_loadEscapes_empty (parse : String → Except Fault Value) (tree : FileTree) :
    ¬LoadEscapes parse tree "" fault := by
  intro h
  cases h with
  | lookup _ hfind => cases hfind
  | undecodable _ hundecodable =>
    obtain ⟨content, hfind, -⟩ := hundecodable
    cases hfind
  | key hreads => cases hreads.ne_empty

theorem load_escapes_iff (hparse : FailsAsMarkup parse) :
    EscapesWith (load parse tree (some path)) fault ↔ LoadEscapes parse tree path fault := by
  unfold load
  cases hempty : path.isEmpty with
  | true =>
    rw [String.isEmpty_iff.1 hempty]
    simp [not_loadEscapes_empty]
  | false => simpa [hempty] using loadShown_escapes_iff hparse

/-- Where the reader of documents fails as it is expected to, a file gives settings with supported
names or is reported to the user, unless it lets a fault escape; and the faults that escape are
known exactly. -/
theorem load_settles_iff (hparse : FailsAsMarkup parse) (tree : FileTree) (path : String) :
    (((∃ settings, load parse tree (some path) = .ok settings ∧ AllSupported settings) ∨
        ∃ fault, load parse tree (some path) = .error fault ∧ fault.isPreset = true) ↔
      ∀ fault, ¬LoadEscapes parse tree path fault) ∧
      ∀ fault, (load parse tree (some path) = .error fault ∧ fault.isPreset = false) ↔
        LoadEscapes parse tree path fault := by
  have hescapes : ∀ fault, EscapesWith (load parse tree (some path)) fault ↔
      LoadEscapes parse tree path fault := fun _ => load_escapes_iff hparse
  refine ⟨?_, hescapes⟩
  simp only [← hescapes, EscapesWith]
  cases hload : load parse tree (some path) with
  | ok settings => simpa using allSupported_of_load hload
  | error fault => simp

end Files

/-- The reader of documents, with every failure of it as one of the markup. -/
def parseMarkup (text : String) : Except Fault Value :=
  (Yaml.parse text).mapError fun _ => .outside .markup

theorem parseMarkup_failsAsMarkup : FailsAsMarkup parseMarkup := by
  intro text fault h
  unfold parseMarkup at h
  cases hparse : Yaml.parse text with
  | ok root =>
    rw [hparse] at h
    cases h
  | error cause =>
    rw [hparse] at h
    cases h
    exact ⟨_, rfl⟩

/-- A name with an accented letter that is written as a single byte. -/
def latinBytes : ByteArray :=
  ⟨#[0x64, 0x61, 0x74, 0x61, 0x62, 0x61, 0x73, 0x65, 0x3A, 0x20, 0xE9]⟩

def latinFile : FileTree where
  files := [(["c.yml"], latinBytes)]

theorem latinFile_isUndecodable : latinFile.IsUndecodable "c.yml" := by
  refine ⟨latinBytes, rfl, fun written h => ?_⟩
  have hvalid : latinBytes.IsValidUTF8 := h ▸ written.isValidUTF8
  exact absurd hvalid (by decide +kernel)

/-- The bytes are read outside of what the handler knows, so their fault escapes. -/
theorem latinFile_escapes :
    FailsAsMarkup parseMarkup ∧
      load parseMarkup latinFile (some "c.yml") = .error (.outside .undecodable) ∧
      (Fault.outside .undecodable).isPreset = false ∧
      ¬((∃ settings, load parseMarkup latinFile (some "c.yml") = .ok settings ∧
          AllSupported settings) ∨
        ∃ fault, load parseMarkup latinFile (some "c.yml") = .error fault ∧
          fault.isPreset = true) := by
  have hescapes : LoadEscapes parseMarkup latinFile "c.yml" (.outside .undecodable) :=
    .undecodable (by decide) latinFile_isUndecodable
  obtain ⟨hsettles, hfault⟩ := load_settles_iff parseMarkup_failsAsMarkup latinFile "c.yml"
  obtain ⟨hload, hpreset⟩ := (hfault _).2 hescapes
  exact ⟨parseMarkup_failsAsMarkup, hload, hpreset, fun h => hsettles.1 h _ hescapes⟩

end ConfigFile

end SeededServer
