/-!
# Tables

A table maps texts to values and lists its entries in increasing order of their keys, each key once.
`Table.ofList_entries` says that building a table from its own entries gives it back.
-/

namespace ToolAgent

namespace Entries

/-- The entries with `key` set to `value`, in order if they were. -/
def put (key : String) (value : α) : List (String × α) → List (String × α)
  | [] => [(key, value)]
  | (k, v) :: rest =>
    if key = k then (key, value) :: rest
    else if key < k then (key, value) :: (k, v) :: rest
    else (k, v) :: put key value rest

/-- The value of the first entry with this key. -/
def find? (key : String) (entries : List (String × α)) : Option α :=
  (entries.find? (·.1 = key)).map (·.2)

/-- Increasing keys. -/
abbrev Sorted (entries : List (String × α)) : Prop := entries.Pairwise (fun a b => a.1 < b.1)

theorem key_of_mem_put {key : String} {value : α} {entries : List (String × α)} {e : String × α}
    (h : e ∈ put key value entries) : e.1 = key ∨ e ∈ entries := by
  induction entries with
  | nil => simp_all [put]
  | cons x rest ih =>
    obtain ⟨k, v⟩ := x
    simp only [put] at h
    split at h
    · rcases List.mem_cons.1 h with rfl | h
      · exact .inl rfl
      · exact .inr (List.mem_cons_of_mem _ h)
    · split at h
      · rcases List.mem_cons.1 h with rfl | h
        · exact .inl rfl
        · exact .inr h
      · rcases List.mem_cons.1 h with rfl | h
        · exact .inr List.mem_cons_self
        · exact (ih h).imp id (List.mem_cons_of_mem _)

theorem sorted_put {key : String} {value : α} {entries : List (String × α)} (h : Sorted entries) :
    Sorted (put key value entries) := by
  induction entries with
  | nil => simp [put]
  | cons x rest ih =>
    obtain ⟨k, v⟩ := x
    have hk := (List.pairwise_cons.1 h).1
    have hr := (List.pairwise_cons.1 h).2
    simp only [put]
    split
    · next he =>
      subst he
      exact List.pairwise_cons.2 ⟨hk, hr⟩
    · next hne =>
      split
      · next hlt =>
        refine List.pairwise_cons.2 ⟨fun e he => ?_, h⟩
        rcases List.mem_cons.1 he with rfl | he
        · exact hlt
        · exact String.lt_trans hlt (hk e he)
      · next hge =>
        refine List.pairwise_cons.2 ⟨fun e he => ?_, ih hr⟩
        rcases key_of_mem_put he with he | he
        · rw [he]
          exact Decidable.byContradiction fun hl =>
            hne (String.le_antisymm (String.not_lt.1 hl) (String.not_lt.1 hge))
        · exact hk e he

/-- A key above all others goes last. -/
theorem put_eq_append {key : String} {value : α} {entries : List (String × α)}
    (h : ∀ e ∈ entries, e.1 < key) : put key value entries = entries ++ [(key, value)] := by
  induction entries with
  | nil => rfl
  | cons x rest ih =>
    obtain ⟨k, v⟩ := x
    have hk : k < key := h (k, v) List.mem_cons_self
    have h₁ : key ≠ k := fun he => String.lt_irrefl k (he ▸ hk)
    have h₂ : ¬ key < k := fun hl => String.lt_irrefl k (String.lt_trans hk hl)
    simp only [put, h₁, h₂, if_false, List.cons_append]
    rw [ih fun e he => h e (List.mem_cons_of_mem _ he)]

/-- The entries added one after the other. -/
def addAll (s entries : List (String × α)) : List (String × α) :=
  entries.foldl (fun acc e => put e.1 e.2 acc) s

theorem sorted_addAll {s entries : List (String × α)} (h : Sorted s) :
    Sorted (addAll s entries) := by
  induction entries generalizing s with
  | nil => exact h
  | cons e rest ih => exact ih (sorted_put h)

theorem addAll_sorted {s entries : List (String × α)} (h : Sorted (s ++ entries)) :
    addAll s entries = s ++ entries := by
  induction entries generalizing s with
  | nil => simp [addAll]
  | cons e rest ih =>
    have hs := List.pairwise_append.1 h
    have : put e.1 e.2 s = s ++ [e] :=
      put_eq_append fun x hx => hs.2.2 x hx e List.mem_cons_self
    simp only [addAll, List.foldl_cons]
    rw [this]
    have := ih (s := s ++ [e]) (by simpa using h)
    simpa [addAll] using this

end Entries

/-- A map from texts to values. -/
structure Table (α : Type) where
  entries : List (String × α)
  sorted : Entries.Sorted entries

namespace Table

instance [DecidableEq α] : DecidableEq (Table α) := fun a b =>
  if h : a.entries = b.entries then isTrue (by cases a; cases b; simp_all)
  else isFalse fun he => h (he ▸ rfl)

/-- A table without entries. -/
def empty : Table α := ⟨[], .nil⟩

instance : Inhabited (Table α) := ⟨empty⟩

/-- The table with `key` set to `value`. -/
def insert (t : Table α) (key : String) (value : α) : Table α :=
  ⟨Entries.put key value t.entries, Entries.sorted_put t.sorted⟩

/-- The value of a key. -/
def get? (t : Table α) (key : String) : Option α := Entries.find? key t.entries

/-- The table with these entries, the last of several with one key counting. -/
def ofList (entries : List (String × α)) : Table α :=
  ⟨Entries.addAll [] entries, Entries.sorted_addAll .nil⟩

/-- The table with the entries of another added; those of the other count. -/
def union (t other : Table α) : Table α :=
  ⟨Entries.addAll t.entries other.entries, Entries.sorted_addAll t.sorted⟩

/-- The keys, in order. -/
def keys (t : Table α) : List String := t.entries.map (·.1)

/-- The number of keys. -/
def size (t : Table α) : Nat := t.entries.length

theorem ext_entries {s t : Table α} (h : s.entries = t.entries) : s = t := by
  cases s; cases t; simp_all

theorem ofList_entries (t : Table α) : ofList t.entries = t :=
  ext_entries (Entries.addAll_sorted (s := []) (by simpa using t.sorted))

end Table

end ToolAgent
