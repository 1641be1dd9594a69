import SeededServer.ConfigFile
import SeededServer.Proofs.Acceptance
import SeededServer.Proofs.Entries
import SeededServer.Yaml.Meaning

/-!
# Settings files

What a configuration file is accepted as. The keys of its mapping are judged before its lists: if
some are not supported, they are all reported, each of them once and in the order of their code
points; otherwise a setting that must be a list and is none is reported. A mapping that passes both
is taken over as it is.

## Main definitions

* `ConfigFile.mappingOf` — the root of a document that gives settings.
* `ConfigFile.AllSupported`, `ConfigFile.ListsAreLists` — what is asked of settings.
* `ConfigFile.Judged` — how settings are accepted or reported.
-/
namespace SeededServer

/-! ## The order of texts -/

namespace Text

theorem precedes_eq_false_iff {cs ds : List Char} : precedes cs ds = false ↔ ds < cs := by
  induction cs generalizing ds with
  | nil => simp [precedes]
  | cons c cs ih =>
    cases ds with
    | nil => simp [precedes]
    | cons d ds =>
      have hlt : c.toNat < d.toNat ↔ c < d := Iff.rfl
      have heq : c.toNat = d.toNat ↔ c = d := Char.toNat_inj
      rcases lt_trichotomy c d with h | rfl | h
      · simp [precedes, List.cons_lt_cons_iff, hlt, h, h.ne', not_lt_of_gt h]
      · simp [precedes, ih]
      · simp [precedes, List.cons_lt_cons_iff, hlt, heq, h, h.ne', h.le]

theorem comesFirst_iff {s t : String} : comesFirst s t = true ↔ s ≤ t := by
  rw [← Bool.not_eq_false, comesFirst, precedes_eq_false_iff, ← String.lt_iff_toList_lt,
    String.not_lt]

/-- Texts that all differ are put into strictly ascending order. -/
theorem mergeSort_ascending {texts : List String} (hnodup : texts.Nodup) :
    (texts.mergeSort comesFirst).Pairwise (· < ·) := by
  have hsorted : (texts.mergeSort comesFirst).Pairwise (comesFirst · · = true) := by
    refine List.pairwise_mergeSort (fun s t u => ?_) (fun s t => ?_) texts
    · simpa only [comesFirst_iff] using String.le_trans
    · simpa only [Bool.or_eq_true, comesFirst_iff] using String.le_total s t
  have hdistinct : (texts.mergeSort comesFirst).Nodup :=
    (List.mergeSort_perm texts comesFirst).nodup_iff.2 hnodup
  refine hsorted.imp₂ (fun s t hle hne => ?_) hdistinct
  exact String.not_le.1 fun hge => hne (String.le_antisymm (comesFirst_iff.1 hle) hge)

end Text

/-! ## Files that are there -/

namespace FileTree

variable {tree : FileTree} {path text : String}

theorem Reads.exists? (h : tree.Reads path text) : tree.exists? path = .ok true := by
  obtain ⟨hnul, written, hfind, -⟩ := h
  simp [FileTree.exists?, hnul, hfind]

/-- The empty path leads to the working directory, so it names no text file. -/
theorem Reads.ne_empty (h : tree.Reads path text) : path.isEmpty = false := by
  obtain ⟨-, written, hfind, -⟩ := h
  refine Bool.eq_false_iff.2 fun hempty => ?_
  rw [String.isEmpty_iff.1 hempty] at hfind
  cases hfind

end FileTree

namespace ConfigFile

/-! ## Settings -/

/-- The root of a document that gives these settings. -/
def mappingOf (settings : Settings) : Value :=
  .mapping (settings.map fun entry => (.text entry.1, entry.2))

/-- Every setting has a supported name. -/
def AllSupported (settings : Settings) : Prop := ∀ entry ∈ settings, entry.1 ∈ supportedKeys

/-- The settings that must be lists are lists. -/
def ListsAreLists (settings : Settings) : Prop :=
  ∀ entry ∈ settings, entry.1 ∈ listKeys → ∃ items, entry.2 = .list items

/-- How settings are judged. Names that are not supported come before a list that is none. -/
inductive Judged (settings : Settings) : Except Fault Settings → Prop
  | accepted : AllSupported settings → ListsAreLists settings → Judged settings (.ok settings)
  | unknown {names : List String} : names ≠ [] →
      (∀ name, name ∈ names ↔ name ∈ settings.map Prod.fst ∧ name ∉ supportedKeys) →
      names.Pairwise (· < ·) →
      Judged settings (.error (.plain ("Unknown configuration keys: " ++ ", ".intercalate names)))
  | misshapen {key : String} {value : Value} : AllSupported settings → (key, value) ∈ settings →
      key ∈ listKeys → (∀ items, value ≠ .list items) →
      Judged settings (.error (.plain ("Configuration key '" ++ key ++ "' must be a YAML list.")))

section Settings

variable {settings : Settings}

theorem textEntries?_mappingOf (settings : Settings) :
    textEntries? (settings.map fun entry => (.text entry.1, entry.2)) = some settings := by
  unfold textEntries?
  induction settings with
  | nil => rfl
  | cons entry rest ih =>
    rw [List.map_cons, List.mapM_cons, ih]
    rfl

theorem mem_unknownKeys {name : String} : name ∈ unknownKeys settings ↔
    name ∈ settings.map Prod.fst ∧ name ∉ supportedKeys := by
  simp [unknownKeys]

theorem unknownKeys_eq_nil_iff : unknownKeys settings = [] ↔ AllSupported settings := by
  simp [List.eq_nil_iff_forall_not_mem, mem_unknownKeys, AllSupported]

theorem isList_iff {value : Value} : isList value = true ↔ ∃ items, value = .list items := by
  cases value <;> simp [isList]

theorem mem_misshapenKeys {key : String} : key ∈ misshapenKeys settings ↔
    key ∈ listKeys ∧ ∃ value, Entries.get? settings key = some value ∧
      ∀ items, value ≠ .list items := by
  simp only [misshapenKeys, List.mem_filter, Option.any_eq_true, Bool.not_eq_true',
    Bool.eq_false_iff, ne_eq, isList_iff, not_exists]

theorem ofEntries_eq_ok_iff {loaded : Settings} : ofEntries settings = .ok loaded ↔
    unknownKeys settings = [] ∧ misshapenKeys settings = [] ∧ loaded = settings := by
  unfold ofEntries
  cases hunknown : unknownKeys settings with
  | nil => cases misshapenKeys settings <;> simp [eq_comm]
  | cons name rest => cases misshapenKeys settings <;> simp

theorem ofEntries_nil : ofEntries [] = .ok [] :=
  ofEntries_eq_ok_iff.2 ⟨unknownKeys_eq_nil_iff.2 (List.forall_mem_nil _), rfl, rfl⟩

/-- The settings that a root gives were accepted as they are. -/
theorem ofEntries_of_ofRoot {root : Value} (h : ofRoot root = .ok settings) :
    ofEntries settings = .ok settings := by
  unfold ofRoot at h
  split at h
  · cases h
    exact ofEntries_nil
  · split at h
    · obtain ⟨-, -, rfl⟩ := ofEntries_eq_ok_iff.1 h
      exact h
    · cases h
  · cases h

/-- Where no name occurs twice, the lists are found under their names. -/
theorem misshapenKeys_eq_nil_iff (hnodup : (settings.map Prod.fst).Nodup) :
    misshapenKeys settings = [] ↔ ListsAreLists settings := by
  simp only [List.eq_nil_iff_forall_not_mem, mem_misshapenKeys]
  constructor
  · intro h entry hentry hlist
    by_contra hnone
    exact h entry.1 ⟨hlist, entry.2, Entries.get?_of_mem hnodup hentry, not_exists.1 hnone⟩
  · rintro h key ⟨hlist, value, hvalue, hnone⟩
    obtain ⟨items, hitems⟩ := h (key, value) (Entries.mem_of_get? hvalue) hlist
    exact hnone items hitems

theorem ofEntries_judged (hnodup : (settings.map Prod.fst).Nodup) :
    Judged settings (ofEntries settings) := by
  unfold ofEntries
  split
  · next hunknown hmisshapen =>
    exact .accepted (unknownKeys_eq_nil_iff.1 hunknown)
      ((misshapenKeys_eq_nil_iff hnodup).1 hmisshapen)
  · next key rest hunknown hmisshapen =>
    have hkey : key ∈ misshapenKeys settings := hmisshapen ▸ List.mem_cons_self
    obtain ⟨hlist, value, hvalue, hnone⟩ := mem_misshapenKeys.1 hkey
    exact .misshapen (unknownKeys_eq_nil_iff.1 hunknown) (Entries.mem_of_get? hvalue) hlist hnone
  · next hlisted hempty =>
    -- without such a name one of the cases above would have been taken
    have hsome : unknownKeys settings ≠ [] := by
      intro hnil
      cases hmisshapen : misshapenKeys settings with
      | nil => exact hlisted hnil hmisshapen
      | cons key rest => exact hempty key rest hnil hmisshapen
    exact .unknown hsome (fun _ => mem_unknownKeys)
      (Text.mergeSort_ascending (hnodup.filter _))

/-- Settings that are judged are accepted only as they are, and only if nothing is wrong. -/
theorem Judged.eq_ok_iff {result : Except Fault Settings} (h : Judged settings result)
    (loaded : Settings) :
    result = .ok loaded ↔ AllSupported settings ∧ ListsAreLists settings ∧ loaded = settings := by
  cases h with
  | accepted hsupported hlists =>
    simp [hsupported, hlists, eq_comm]
  | unknown hsome hnames =>
    refine ⟨nofun, fun ⟨hsupported, _⟩ => ?_⟩
    obtain ⟨name, hname⟩ := List.exists_mem_of_ne_nil _ hsome
    obtain ⟨hmem, hunknown⟩ := (hnames name).1 hname
    obtain ⟨entry, hentry, rfl⟩ := List.mem_map.1 hmem
    exact absurd (hsupported entry hentry) hunknown
  | misshapen _ hmem hlist hnone =>
    refine ⟨nofun, fun ⟨_, hlists, _⟩ => ?_⟩
    obtain ⟨items, hitems⟩ := hlists _ hmem hlist
    exact absurd hitems (hnone items)

end Settings

/-! ## Files -/

section Files

variable {parse : String → Except Fault Value} {tree : FileTree} {path text : String}

theorem ofEntries_of_loadShown {shown : String} {settings : Settings}
    (h : loadShown parse tree path shown = .ok settings) : ofEntries settings = .ok settings := by
  obtain ⟨found, -, hrest⟩ := ok_of_bind h
  split at hrest
  · obtain ⟨root, -, hroot⟩ := ok_of_bind hrest
    exact ofEntries_of_ofRoot hroot
  · cases hrest

theorem ofEntries_of_load {named : Option String} {settings : Settings}
    (h : load parse tree named = .ok settings) : ofEntries settings = .ok settings := by
  unfold load at h
  split at h
  · cases h
    exact ofEntries_nil
  · split at h
    · cases h
      exact ofEntries_nil
    · exact ofEntries_of_loadShown h

/-- Whichever file is read, the settings that count were accepted as they are. -/
theorem ofEntries_of_loadOrDefault {named : Option String} {settings : Settings}
    (h : loadOrDefault parse tree named = .ok settings) : ofEntries settings = .ok settings := by
  unfold loadOrDefault at h
  split at h
  · exact ofEntries_of_load h
  · obtain ⟨found, -, hrest⟩ := ok_of_bind h
    split at hrest
    · exact ofEntries_of_loadShown hrest
    · cases hrest
      exact ofEntries_nil

/-- Of a text file nothing but the root of its document matters. -/
theorem load_of_reads (h : tree.Reads path text) {root : Value} (hparse : parse text = .ok root) :
    load parse tree (some path) = ofRoot root := by
  have hread : readRoot parse tree path path = .ok root := by
    rw [readRoot, FileTree.readText_eq_ok_iff.2 h]
    exact congrArg (Except.mapError _) hparse
  simp only [load, h.ne_empty, loadShown, h.exists?, hread]
  rfl

/-- A text file whose document is empty gives no settings. One with a mapping from texts gives all
of them unchanged, if their names are supported and those that must be lists are lists; otherwise
all names that are not supported are reported, or else a list that is none. -/
theorem load_filters_exactly (h : tree.Reads path text) :
    (parse text = .ok .null → load parse tree (some path) = .ok []) ∧
      ∀ settings : Settings, (settings.map Prod.fst).Nodup →
        parse text = .ok (mappingOf settings) →
          Judged settings (load parse tree (some path)) ∧
            ∀ loaded, load parse tree (some path) = .ok loaded ↔
              AllSupported settings ∧ ListsAreLists settings ∧ loaded = settings := by
  refine ⟨fun hnull => load_of_reads h hnull, fun settings hnodup hparse => ?_⟩
  have hjudged : Judged settings (load parse tree (some path)) := by
    rw [load_of_reads h hparse, mappingOf, ofRoot, textEntries?_mappingOf]
    exact ofEntries_judged hnodup
  exact ⟨hjudged, hjudged.eq_ok_iff⟩

end Files

/-- What a file says with two names that are not supported and a list that is none. -/
def muddledText : String := "zebra: 1\nqueries: select 1\nApple: 2\n"

/-- The settings that the muddled file gives. -/
def muddledSettings : Settings :=
  [("zebra", .int 1), ("queries", .text "select 1"), ("Apple", .int 2)]

def muddledFile : FileTree where
  files := [(["c.yml"], muddledText.toUTF8)]

/-- The document gives the muddled settings. -/
def isMuddled : Except Fault Value → Bool
  | .ok (.mapping [(.text "zebra", .int 1), (.text "queries", .text "select 1"),
      (.text "Apple", .int 2)]) => true
  | _ => false

theorem eq_of_isMuddled {root : Except Fault Value} (h : isMuddled root = true) :
    root = .ok (mappingOf muddledSettings) := by
  unfold isMuddled at h
  split at h
  · rfl
  · cases h

/-- Both names are reported, and nothing is said about the list. -/
theorem muddledFile_judged :
    muddledFile.Reads "c.yml" muddledText ∧ (muddledSettings.map Prod.fst).Nodup ∧
      Yaml.parse muddledText = .ok (mappingOf muddledSettings) ∧
      Judged muddledSettings (load Yaml.parse muddledFile (some "c.yml")) ∧
      load Yaml.parse muddledFile (some "c.yml") =
        .error (.plain "Unknown configuration keys: Apple, zebra") := by
  have hreads : muddledFile.Reads "c.yml" muddledText :=
    ⟨by decide, muddledText, rfl, by decide +kernel⟩
  have hnodup : (muddledSettings.map Prod.fst).Nodup := by decide
  have hparse : Yaml.parse muddledText = .ok (mappingOf muddledSettings) :=
    eq_of_isMuddled (by decide +kernel)
  have hunknown : unknownKeys muddledSettings = ["Apple", "zebra"] := by cbv
  refine ⟨hreads, hnodup, hparse,
    ((load_filters_exactly hreads).2 muddledSettings hnodup hparse).1, ?_⟩
  rw [load_of_reads hreads hparse, mappingOf, ofRoot, textEntries?_mappingOf]
  simp only [ofEntries, hunknown]
  rfl

end ConfigFile

end SeededServer
