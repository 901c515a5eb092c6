namespace MarketSnapshot

universe u v

/-- Pairs in order of first insertion, read through `find?`. -/
abbrev Table (κ : Type u) (α : Type v) := List (κ × α)

namespace Table

variable {κ : Type u} {α : Type v} [DecidableEq κ]

def find? : Table κ α → κ → Option α
  | [], _ => none
  | (k, a) :: rest, key => if k = key then some a else find? rest key

def contains (table : Table κ α) (key : κ) : Bool := (find? table key).isSome

def put : Table κ α → κ → α → Table κ α
  | [], key, value => [(key, value)]
  | (k, a) :: rest, key, value =>
      if k = key then (k, value) :: rest else (k, a) :: put rest key value

def merge (table changes : Table κ α) : Table κ α :=
  changes.foldl (fun result entry => put result entry.1 entry.2) table

def keys (table : Table κ α) : List κ := table.map Prod.fst

def values (table : Table κ α) : List α := table.map Prod.snd

@[simp] theorem find?_nil (key : κ) : find? ([] : Table κ α) key = none := rfl

@[simp] theorem find?_put_self (table : Table κ α) (key : κ) (value : α) :
    find? (put table key value) key = some value := by
  induction table with
  | nil => simp [put, find?]
  | cons entry rest ih => by_cases h : entry.1 = key <;> simp [put, find?, h, ih]

theorem find?_put_of_ne (table : Table κ α) {key other : κ} (value : α) (distinct : key ≠ other) :
    find? (put table key value) other = find? table other := by
  induction table with
  | nil => simp [put, find?, distinct]
  | cons entry rest ih => grind [put, find?]

theorem keys_put (table : Table κ α) (key : κ) (value : α) :
    keys (put table key value) = if key ∈ keys table then keys table else keys table ++ [key] := by
  induction table with
  | nil => simp [put, keys]
  | cons entry rest ih => grind [put, keys]

theorem put_of_fresh {table : Table κ α} {key : κ} (fresh : key ∉ keys table) (value : α) :
    put table key value = table ++ [(key, value)] := by
  induction table with
  | nil => rfl
  | cons entry rest ih =>
    obtain ⟨other, later⟩ : key ≠ entry.1 ∧ key ∉ keys rest := by simpa [keys] using fresh
    rw [put, if_neg (Ne.symm other), ih later]
    rfl

theorem contains_iff (table : Table κ α) (key : κ) :
    contains table key = true ↔ key ∈ keys table := by
  induction table with
  | nil => simp [contains, keys]
  | cons entry rest ih =>
    by_cases same : entry.1 = key
    · simp [contains, find?, keys, same]
    · have other : key ≠ entry.1 := fun h => same h.symm
      simpa [contains, find?, keys, same, other] using ih

theorem find?_eq_none_iff (table : Table κ α) (key : κ) :
    find? table key = none ↔ key ∉ keys table := by
  rw [← contains_iff, contains, Bool.not_eq_true, Option.isSome_eq_false_iff,
    Option.isNone_iff_eq_none]

theorem mem_of_find? {table : Table κ α} {key : κ} {a : α} (found : find? table key = some a) :
    (key, a) ∈ table := by
  induction table with
  | nil => cases found
  | cons entry rest ih =>
    by_cases same : entry.1 = key
    · simp only [find?, same, if_true, Option.some.injEq] at found
      subst same found
      exact List.mem_cons_self
    · simp only [find?, same, if_false] at found
      exact List.mem_cons_of_mem _ (ih found)

theorem split_of_find? {table : Table κ α} {key : κ} {a : α} (found : find? table key = some a) :
    ∃ before after, table = before ++ (key, a) :: after ∧
      ∀ value, put table key value = before ++ (key, value) :: after := by
  induction table with
  | nil => cases found
  | cons entry rest ih =>
    by_cases same : entry.1 = key
    · simp only [find?, same, if_true, Option.some.injEq] at found
      subst same found
      exact ⟨[], rest, rfl, fun value => by simp [put]⟩
    · simp only [find?, same, if_false] at found
      obtain ⟨before, after, rfl, written⟩ := ih found
      exact ⟨entry :: before, after, rfl, fun value => by simp [put, same, written]⟩

theorem find?_of_mem {table : Table κ α} (distinct : (keys table).Nodup) {key : κ} {a : α}
    (member : (key, a) ∈ table) : find? table key = some a := by
  induction table with
  | nil => cases member
  | cons entry rest ih =>
    obtain ⟨fresh, distinct⟩ := List.nodup_cons.mp distinct
    rcases List.mem_cons.mp member with rfl | member
    · simp [find?]
    · have other : entry.1 ≠ key := by
        rintro rfl
        exact fresh (List.mem_map.mpr ⟨_, member, rfl⟩)
      simpa [find?, other] using ih distinct member

theorem mem_values_put {table : Table κ α} {key : κ} {value a : α}
    (member : a ∈ values (put table key value)) : a = value ∨ a ∈ values table := by
  induction table with
  | nil => simpa [put, values] using member
  | cons entry rest ih =>
    by_cases same : entry.1 = key
    · rw [put, if_pos same] at member
      rcases List.mem_cons.mp member with rfl | member
      · exact .inl rfl
      · exact .inr (List.mem_cons_of_mem _ member)
    · rw [put, if_neg same] at member
      rcases List.mem_cons.mp member with rfl | member
      · exact .inr List.mem_cons_self
      · exact (ih member).imp_right (List.mem_cons_of_mem _)

theorem nodup_keys_put {table : Table κ α} (distinct : (keys table).Nodup) (key : κ) (value : α) :
    (keys (put table key value)).Nodup := by
  rw [keys_put]
  by_cases known : key ∈ keys table
  · rwa [if_pos known]
  · rw [if_neg known]
    refine List.nodup_append.mpr ⟨distinct, by simp, ?_⟩
    rintro old member new added rfl
    exact known (List.mem_singleton.mp added ▸ member)

theorem mem_keys_put_iff (table : Table κ α) (key other : κ) (value : α) :
    other ∈ keys (put table key value) ↔ other ∈ keys table ∨ other = key := by
  rw [keys_put]
  by_cases known : key ∈ keys table
  · rw [if_pos known]
    refine ⟨.inl, ?_⟩
    rintro (member | rfl)
    · exact member
    · exact known
  · rw [if_neg known, List.mem_append, List.mem_singleton]

theorem nodup_keys_merge {table : Table κ α} (distinct : (keys table).Nodup)
    (changes : Table κ α) : (keys (merge table changes)).Nodup := by
  induction changes generalizing table with
  | nil => exact distinct
  | cons entry rest ih => exact ih (nodup_keys_put distinct entry.1 entry.2)

theorem mem_keys_merge_iff (table changes : Table κ α) (key : κ) :
    key ∈ keys (merge table changes) ↔ key ∈ keys table ∨ key ∈ keys changes := by
  induction changes generalizing table with
  | nil => simp [merge, keys]
  | cons entry rest ih =>
    have later := ih (put table entry.1 entry.2)
    rw [mem_keys_put_iff, or_assoc] at later
    exact later.trans (or_congr_right (List.mem_cons (a := key) (l := keys rest)).symm)

theorem find?_merge (table : Table κ α) {changes : Table κ α} (distinct : (keys changes).Nodup)
    (key : κ) : find? (merge table changes) key = (find? changes key).or (find? table key) := by
  induction changes generalizing table with
  | nil => rfl
  | cons entry rest ih =>
    obtain ⟨fresh, distinct⟩ := List.nodup_cons.mp distinct
    have later := ih (put table entry.1 entry.2) distinct
    refine later.trans ?_
    by_cases same : entry.1 = key
    · subst same
      rw [(find?_eq_none_iff rest entry.1).mpr fresh, find?_put_self, find?, if_pos rfl]
      rfl
    · rw [find?_put_of_ne table entry.2 same, find?, if_neg same]

section Filter

variable {keep : κ × α → Bool} {key : κ}

theorem find?_filter (kept : ∀ a, keep (key, a) = true) (table : Table κ α) :
    find? (table.filter keep) key = find? table key := by
  induction table with
  | nil => rfl
  | cons entry rest ih =>
    obtain ⟨k, a⟩ := entry
    by_cases same : k = key
    · subst same
      rw [List.filter_cons_of_pos (kept a), find?, find?, if_pos rfl, if_pos rfl]
    · cases held : keep (k, a) with
      | false =>
        rw [List.filter_cons_of_neg (by simp [held]), ih, find?, if_neg same]
      | true =>
        rw [List.filter_cons_of_pos held, find?, find?, if_neg same, if_neg same, ih]

theorem find?_filter_of_dropped (dropped : ∀ a, keep (key, a) = false) (table : Table κ α) :
    find? (table.filter keep) key = none := by
  rw [find?_eq_none_iff]
  intro member
  obtain ⟨entry, kept, rfl⟩ := List.mem_map.mp member
  have holds := (List.mem_filter.mp kept).2
  rw [dropped entry.2] at holds
  cases holds

theorem filter_put_of_dropped (dropped : ∀ a, keep (key, a) = false) (table : Table κ α)
    (value : α) : (put table key value).filter keep = table.filter keep := by
  induction table with
  | nil => simp [put, dropped]
  | cons entry rest ih =>
    obtain ⟨k, a⟩ := entry
    by_cases same : k = key
    · subst same
      simp [put, dropped]
    · simp only [put, if_neg same, List.filter_cons, ih]

theorem filter_put_of_kept (kept : ∀ a, keep (key, a) = true) (table : Table κ α)
    (value : α) :
    (put table key value).filter keep = put (table.filter keep) key value := by
  induction table with
  | nil => simp [put, kept]
  | cons entry rest ih =>
    obtain ⟨k, a⟩ := entry
    by_cases same : k = key
    · subst same
      simp [put, kept]
    · simp only [put, if_neg same, List.filter_cons, ih]
      cases keep (k, a) <;> simp [put, same]

end Filter

end Table

end MarketSnapshot
