import SeededServer.Value.Basic

/-!
# Laws of entries

What is found under a key: after entries were put together, after a value was put under a key, and
after entries were laid over others. Of several values that were put under one key the last counts.
-/
namespace SeededServer.Entries

variable {α β : Type} [DecidableEq α]

theorem get?_cons (entry : α × β) (entries : List (α × β)) (key : α) :
    get? (entry :: entries) key = if entry.1 = key then some entry.2 else get? entries key := by
  by_cases h : entry.1 = key <;> simp [get?, h]

theorem get?_append (first second : List (α × β)) (key : α) :
    get? (first ++ second) key = (get? first key).or (get? second key) := by
  induction first with
  | nil => simp [get?]
  | cons entry rest ih =>
    rw [List.cons_append, get?_cons, get?_cons, ih]
    split <;> rfl

theorem get?_eq_none_iff {entries : List (α × β)} {key : α} :
    get? entries key = none ↔ key ∉ entries.map Prod.fst := by
  induction entries with
  | nil => simp [get?]
  | cons entry rest ih =>
    rw [get?_cons, List.map_cons, List.mem_cons, not_or]
    by_cases h : entry.1 = key
    · simp [h]
    · simp [h, ih, Ne.symm h]

/-- What is found under a key is an entry. -/
theorem mem_of_get? {entries : List (α × β)} {key : α} {value : β}
    (h : get? entries key = some value) : (key, value) ∈ entries := by
  induction entries with
  | nil => cases h
  | cons entry rest ih =>
    rw [get?_cons] at h
    split at h
    · next hkey =>
      cases h
      exact hkey ▸ List.mem_cons_self
    · exact List.mem_cons_of_mem _ (ih h)

/-- Where no key occurs twice, every entry counts. -/
theorem get?_of_mem {entries : List (α × β)} {entry : α × β}
    (hnodup : (entries.map Prod.fst).Nodup) (h : entry ∈ entries) :
    get? entries entry.1 = some entry.2 := by
  induction entries with
  | nil => cases h
  | cons first rest ih =>
    obtain ⟨hfirst, hrest⟩ := List.nodup_cons.1 hnodup
    rw [get?_cons]
    rcases List.mem_cons.1 h with rfl | hmem
    · exact if_pos rfl
    · have hne : first.1 ≠ entry.1 := fun heq =>
        hfirst (heq ▸ List.mem_map_of_mem hmem)
      rw [if_neg hne, ih hrest hmem]

theorem get?_mapValues {γ : Type} (f : β → γ) (entries : List (α × β)) (key : α) :
    get? (entries.map fun entry => (entry.1, f entry.2)) key = (get? entries key).map f := by
  induction entries with
  | nil => rfl
  | cons entry rest ih =>
    rw [List.map_cons, get?_cons, get?_cons, ih]
    split <;> rfl

theorem has_eq_isSome (entries : List (α × β)) (key : α) :
    has entries key = (get? entries key).isSome := by
  induction entries with
  | nil => rfl
  | cons entry rest ih =>
    rw [get?_cons, has, List.any_cons, ← has, ih]
    by_cases h : entry.1 = key <;> simp [h]

theorem get?_put (key : α) (value : β) (entries : List (α × β)) (wanted : α) :
    get? (put key value entries) wanted =
      if key = wanted then some value else get? entries wanted := by
  induction entries with
  | nil => simp [put, get?]
  | cons entry rest ih =>
    by_cases hkey : entry.1 = key
    · rw [put, if_pos hkey, get?_cons, get?_cons, hkey]
      split <;> rfl
    · rw [put, if_neg hkey, get?_cons, get?_cons, ih]
      by_cases hwanted : entry.1 = wanted
      · have hne : key ≠ wanted := fun h => hkey (hwanted.trans h.symm)
        simp [hwanted, hne]
      · simp [hwanted]

/-- Of two entries with one key the later one counts. -/
theorem get?_ofList (entries : List (α × β)) (key : α) :
    get? (ofList entries) key = get? entries.reverse key := by
  have step (done : List (α × β)) :
      get? (entries.foldl (fun done entry => put entry.1 entry.2 done) done) key =
        (get? entries.reverse key).or (get? done key) := by
    induction entries generalizing done with
    | nil => simp [get?]
    | cons entry rest ih =>
      rw [List.foldl_cons, ih, get?_put, List.reverse_cons, get?_append, get?_cons, Option.or_assoc]
      congr 1
      split <;> simp [get?]
  simpa [ofList, get?] using step []

/-- Entries that are kept or dropped by their keys. -/
theorem get?_filter (keeps : α → Bool) (entries : List (α × β)) (key : α) :
    get? (entries.filter fun entry => keeps entry.1) key =
      if keeps key then get? entries key else none := by
  induction entries with
  | nil => simp [get?]
  | cons entry rest ih =>
    rw [List.filter_cons, get?_cons]
    by_cases hkey : entry.1 = key
    · subst hkey
      cases hkeeps : keeps entry.1 with
      | true => simp [get?_cons]
      | false => simpa [hkeeps] using ih
    · rw [if_neg hkey, ← ih]
      split
      · rw [get?_cons, if_neg hkey]
      · rfl

/-- What is laid over counts before what it is laid over. -/
theorem get?_overlay (base top : List (α × β)) (key : α) :
    get? (overlay base top) key = (get? top key).or (get? base key) := by
  rw [overlay, get?_append, get?_filter (fun name => !has top name), has_eq_isSome]
  cases get? top key <;> simp

end SeededServer.Entries
