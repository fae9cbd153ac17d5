/-!
# Keyed lists

Lists of keyed values in the order in which their keys came first. A key that comes again keeps its
place and takes the new value.
-/

namespace DocHighlight.Keyed

variable {α : Type}

def get? (entries : List (String × α)) (key : String) : Option α :=
  match entries with
  | [] => none
  | (first, value) :: others => if first = key then some value else get? others key

/-- The entries with one more: in its place if the key is there already, else at the end. -/
def put (entries : List (String × α)) (key : String) (value : α) : List (String × α) :=
  match entries with
  | [] => [(key, value)]
  | (first, old) :: others =>
      if first = key then (key, value) :: others else (first, old) :: put others key value

/-- The entries that come from putting pairs in one after the other. -/
def ofPairs (pairs : List (String × α)) : List (String × α) :=
  pairs.foldl (fun entries pair => put entries pair.1 pair.2) []

def keys (entries : List (String × α)) : List String :=
  entries.map Prod.fst

@[simp]
theorem get?_put_self (entries : List (String × α)) (key : String) (value : α) :
    get? (put entries key value) key = some value := by
  induction entries with
  | nil => simp [put, get?]
  | cons entry others ih =>
      simp only [put]
      split
      · simp [get?]
      · rename_i different
        simp [get?, different, ih]

theorem get?_put_of_ne (entries : List (String × α)) {key other : String} (value : α)
    (different : key ≠ other) : get? (put entries key value) other = get? entries other := by
  induction entries with
  | nil => simp [put, get?, different]
  | cons entry others ih =>
      simp only [put]
      split
      · rename_i same
        simp [get?, same, different]
      · simp [get?, ih]

/-- A key has no value exactly if it is not among the keys. -/
theorem get?_eq_none_iff (entries : List (String × α)) (key : String) :
    get? entries key = none ↔ key ∉ keys entries := by
  induction entries with
  | nil => simp [get?, keys]
  | cons entry others ih =>
      by_cases same : entry.1 = key
      · simp [get?, keys, same]
      · simp only [get?, if_neg same, ih, keys, List.map_cons, List.mem_cons, not_or]
        exact ⟨fun absent => ⟨Ne.symm same, absent⟩, And.right⟩

@[simp]
theorem keys_map {β : Type} (entries : List (String × α)) (change : String × α → β) :
    keys (entries.map fun entry => (entry.1, change entry)) = keys entries := by
  simp [keys, Function.comp_def]

theorem keys_zip {names : List String} {values : List α} (enough : names.length ≤ values.length) :
    keys (names.zip values) = names :=
  List.map_fst_zip enough

theorem map_zip {β : Type} (change : α → β) (names : List String) (values : List α) :
    (names.zip values).map (fun entry => (entry.1, change entry.2)) =
      names.zip (values.map change) := by
  rw [List.zip_map_right]
  rfl

/-- A new key comes last, and a known one changes no keys. -/
theorem keys_put (entries : List (String × α)) (key : String) (value : α) :
    keys (put entries key value) =
      if key ∈ keys entries then keys entries else keys entries ++ [key] := by
  induction entries with
  | nil => simp [put, keys]
  | cons entry others ih =>
      by_cases same : entry.1 = key
      · simp [put, keys, same]
      · simp only [keys] at ih
        by_cases known : key ∈ others.map Prod.fst <;>
          simp [put, keys, same, Ne.symm same, ih, known]

theorem nodup_keys_put {entries : List (String × α)} (distinct : (keys entries).Nodup)
    (key : String) (value : α) : (keys (put entries key value)).Nodup := by
  rw [keys_put]
  split
  · exact distinct
  · rename_i new
    rw [List.nodup_append]
    refine ⟨distinct, by simp, ?_⟩
    intro other mem last same equal
    exact new (by simp_all)

theorem mem_put {entries : List (String × α)} {key : String} {value : α} {entry : String × α}
    (mem : entry ∈ put entries key value) : entry = (key, value) ∨ entry ∈ entries := by
  induction entries with
  | nil => simpa [put] using mem
  | cons first others ih =>
      rw [put] at mem
      split at mem
      · rcases List.mem_cons.mp mem with same | mem
        · exact .inl same
        · exact .inr (List.mem_cons_of_mem _ mem)
      · rcases List.mem_cons.mp mem with same | mem
        · exact .inr (same ▸ List.mem_cons_self ..)
        · exact (ih mem).imp_right (List.mem_cons_of_mem _)

/-- An entry with a new key comes last. -/
theorem put_of_not_mem {entries : List (String × α)} {key : String} (new : key ∉ keys entries)
    (value : α) : put entries key value = entries ++ [(key, value)] := by
  induction entries with
  | nil => rfl
  | cons entry others ih =>
      simp only [keys, List.map_cons, List.mem_cons, not_or] at new
      rw [put, if_neg (Ne.symm new.1), ih new.2, List.cons_append]

/-- Pairs with distinct keys are entries already. -/
theorem ofPairs_eq_self {pairs : List (String × α)} (distinct : (keys pairs).Nodup) :
    ofPairs pairs = pairs := by
  have step : ∀ entries : List (String × α), (keys (entries ++ pairs)).Nodup →
      pairs.foldl (fun entries pair => put entries pair.1 pair.2) entries = entries ++ pairs := by
    clear distinct
    induction pairs with
    | nil => intro entries _; simp
    | cons pair pairs ih =>
        intro entries distinct
        have new : pair.1 ∉ keys entries := by
          simp only [keys, List.map_append, List.map_cons, List.nodup_append] at distinct
          intro mem
          exact distinct.2.2 _ mem _ (List.mem_cons_self ..) rfl
        rw [List.foldl_cons, put_of_not_mem new, ih, List.append_assoc, List.singleton_append]
        simpa using distinct
  exact step [] distinct

/-- Entries with the same distinct keys in the same order and the same values are the same. -/
theorem eq_of_get? {entries others : List (String × α)} (sameKeys : keys entries = keys others)
    (distinct : (keys entries).Nodup) (found : ∀ key, get? entries key = get? others key) :
    entries = others := by
  induction entries generalizing others with
  | nil => exact (List.map_eq_nil_iff.mp sameKeys.symm).symm
  | cons entry rest ih =>
      cases others with
      | nil => cases sameKeys
      | cons other more =>
          rcases entry with ⟨key, value⟩
          rcases other with ⟨_, otherValue⟩
          rcases List.cons.inj sameKeys with ⟨rfl, sameRest⟩
          rcases List.nodup_cons.mp distinct with ⟨new, distinct⟩
          have sameValue : value = otherValue := by
            simpa [get?] using found key
          rw [sameValue, ih sameRest distinct]
          intro sought
          by_cases first : key = sought
          · subst first
            have absent := (get?_eq_none_iff rest key).mpr new
            have absentOther := (get?_eq_none_iff more key).mpr (by rwa [keys, ← sameRest])
            rw [absent, absentOther]
          · simpa [get?, first] using found sought

theorem mem_of_get? {entries : List (String × α)} {key : String} {value : α}
    (found : get? entries key = some value) : (key, value) ∈ entries := by
  induction entries with
  | nil => cases found
  | cons entry others ih =>
      rw [get?] at found
      split at found
      · rename_i same
        cases found
        rw [← same]
        exact List.mem_cons_self ..
      · exact List.mem_cons_of_mem _ (ih found)

theorem mem_keys_of_get? {entries : List (String × α)} {key : String} {value : α}
    (found : get? entries key = some value) : key ∈ keys entries :=
  List.mem_map_of_mem (mem_of_get? found)

theorem exists_of_mem_keys {entries : List (String × α)} {key : String} (mem : key ∈ keys entries) :
    ∃ value, get? entries key = some value := by
  cases found : get? entries key with
  | none => exact absurd mem ((get?_eq_none_iff entries key).mp found)
  | some value => exact ⟨value, rfl⟩

/-- If the keys are distinct, then every entry is found. -/
theorem get?_of_mem {entries : List (String × α)} (distinct : (keys entries).Nodup) {key : String}
    {value : α} (mem : (key, value) ∈ entries) : get? entries key = some value := by
  induction entries with
  | nil => cases mem
  | cons entry others ih =>
      rw [keys, List.map_cons, List.nodup_cons] at distinct
      rcases List.mem_cons.mp mem with rfl | mem
      · exact if_pos rfl
      · have other : entry.1 ≠ key := by
          intro same
          exact distinct.1 (List.mem_map.mpr ⟨_, mem, same.symm⟩)
        rw [get?, if_neg other]
        exact ih distinct.2 mem

@[simp]
theorem get?_map {β : Type} (entries : List (String × α)) (change : α → β) (key : String) :
    get? (entries.map fun entry => (entry.1, change entry.2)) key =
      (get? entries key).map change := by
  induction entries with
  | nil => rfl
  | cons entry others ih =>
      by_cases same : entry.1 = key
      · simp [get?, same]
      · simp only [List.map_cons, get?, if_neg same, ih]

/-- Where the entries stand has no influence on what is found. -/
theorem get?_perm {entries others : List (String × α)} (perm : entries.Perm others)
    (distinct : (keys entries).Nodup) (key : String) : get? entries key = get? others key := by
  have distinctOthers : (keys others).Nodup := (perm.map Prod.fst).nodup_iff.mp distinct
  cases found : get? others key with
  | none =>
      rw [get?_eq_none_iff] at found ⊢
      intro mem
      exact found ((perm.map Prod.fst).mem_iff.mp mem)
  | some value => exact get?_of_mem distinct (perm.mem_iff.mpr (mem_of_get? found))

/-- Entries with distinct keys that are found among others, and leave out no key of those, are the
same entries. -/
theorem perm_of_get? {entries others : List (String × α)} (distinct : (keys entries).Nodup)
    (distinctOthers : (keys others).Nodup)
    (found : ∀ entry ∈ others, get? entries entry.1 = some entry.2)
    (all : ∀ key ∈ keys entries, key ∈ keys others) : entries.Perm others := by
  rw [List.perm_ext_iff_of_nodup
    (List.Pairwise.of_map _ (fun _ _ h same => h (same ▸ rfl)) distinct)
    (List.Pairwise.of_map _ (fun _ _ h same => h (same ▸ rfl)) distinctOthers)]
  rintro ⟨key, value⟩
  constructor
  · intro mem
    rcases List.mem_map.mp (all key (List.mem_map_of_mem mem)) with ⟨⟨same, other⟩, there, rfl⟩
    have here := get?_of_mem distinct mem
    rw [found _ there] at here
    cases here
    exact there
  · intro mem
    exact mem_of_get? (found _ mem)

theorem perm_iff {entries others : List (String × α)} (distinct : (keys entries).Nodup)
    (distinctOthers : (keys others).Nodup) :
    entries.Perm others ↔ (∀ entry ∈ others, get? entries entry.1 = some entry.2) ∧
      ∀ key ∈ keys entries, key ∈ keys others :=
  ⟨fun perm => ⟨fun _ mem => get?_of_mem distinct (perm.mem_iff.mpr mem),
    fun _ mem => (perm.map Prod.fst).mem_iff.mp mem⟩,
    fun ⟨found, all⟩ => perm_of_get? distinct distinctOthers found all⟩

end DocHighlight.Keyed
