import Mathlib.Data.List.Nodup
import ToolAgent.Table

/-!
# Looking things up in a table

A key has the value that was set last. So of the entries that are added one after the other the last
one with a key counts (`Entries.find?_addAll`), and in a table made of a list whose keys differ all
of them are found (`Table.get?_ofList`).
-/

namespace ToolAgent

variable {α : Type}

/-- What is sorted by a text is in ascending order of it. -/
theorem pairwise_mergeSort_by {β : Type} (text : β → String) (xs : List β) :
    (xs.mergeSort fun a b => decide (text a ≤ text b)).Pairwise fun a b => text a ≤ text b := by
  refine (List.pairwise_mergeSort ?_ ?_ xs).imp of_decide_eq_true
  · intro a b c hab hbc
    exact decide_eq_true (String.le_trans (of_decide_eq_true hab) (of_decide_eq_true hbc))
  · intro a b
    rw [← Bool.decide_or, decide_eq_true_eq]
    exact String.le_total _ _

namespace Entries

theorem find?_cons (key : String) (e : String × α) (entries : List (String × α)) :
    find? key (e :: entries) = if e.1 = key then some e.2 else find? key entries := by
  rw [find?, List.find?_cons, find?]
  by_cases hkey : e.1 = key
  · simp [hkey]
  · simp [hkey]

theorem find?_append (key : String) (front rest : List (String × α)) :
    find? key (front ++ rest) = (find? key front).or (find? key rest) := by
  rw [find?, List.find?_append, find?, find?]
  cases front.find? (·.1 = key) <;> rfl

theorem find?_put (key looked : String) (value : α) (entries : List (String × α)) :
    find? looked (put key value entries) =
      if key = looked then some value else find? looked entries := by
  induction entries with
  | nil => exact find?_cons looked (key, value) []
  | cons e rest ih =>
      obtain ⟨k, v⟩ := e
      rw [put]
      split
      · next hkey =>
          rw [find?_cons, find?_cons, hkey]
          split <;> rfl
      · next hkey =>
          split
          · rw [find?_cons]
          · rw [find?_cons, ih, find?_cons]
            split
            · next hlooked => rw [if_neg fun h => hkey (h.trans hlooked.symm)]
            · rfl

/-- A new key comes to the others. -/
theorem perm_put {key : String} {entries : List (String × α)} (h : key ∉ entries.map (·.1))
    (value : α) : (put key value entries).Perm ((key, value) :: entries) := by
  induction entries with
  | nil => exact .refl _
  | cons e rest ih =>
      obtain ⟨hne, hrest⟩ := not_or.mp (mt List.mem_cons.mpr h)
      rw [put, if_neg hne]
      split
      · exact .refl _
      · exact ((ih hrest).cons e).trans (.swap _ _ rest)

/-- A new key goes between others. -/
theorem exists_put_eq_append {key : String} {entries : List (String × α)}
    (h : key ∉ entries.map (·.1)) (value : α) :
    ∃ front rest, entries = front ++ rest ∧
      put key value entries = front ++ (key, value) :: rest := by
  induction entries with
  | nil => exact ⟨[], [], rfl, rfl⟩
  | cons e rest ih =>
      obtain ⟨hne, hrest⟩ := not_or.mp (mt List.mem_cons.mpr h)
      rw [put, if_neg hne]
      split
      · exact ⟨[], _, rfl, rfl⟩
      · obtain ⟨front, back, hentries, hput⟩ := ih hrest
        exact ⟨e :: front, back, congrArg (e :: ·) hentries, congrArg (e :: ·) hput⟩

/-- Of entries whose keys differ, none takes the place of another. -/
theorem perm_addAll {s entries : List (String × α)} (h : ((entries ++ s).map (·.1)).Nodup) :
    (addAll s entries).Perm (entries ++ s) := by
  induction entries generalizing s with
  | nil => exact .refl _
  | cons e rest ih =>
      obtain ⟨hnew, hrest⟩ := List.nodup_cons.mp h
      have hput : (put e.1 e.2 s).Perm (e :: s) :=
        perm_put (fun hmem => hnew ((List.sublist_append_right rest s).map _ |>.subset hmem)) e.2
      have hmoved : (rest ++ put e.1 e.2 s).Perm (e :: (rest ++ s)) :=
        (hput.append_left rest).trans List.perm_middle
      have hkeys : ((rest ++ put e.1 e.2 s).map (·.1)).Nodup := (hmoved.map _).nodup_iff.mpr h
      exact (ih hkeys).trans hmoved

/-- Of the entries that are added, the last one with a key counts. -/
theorem find?_addAll (key : String) (s entries : List (String × α)) :
    find? key (addAll s entries) = (find? key entries.reverse).or (find? key s) := by
  induction entries generalizing s with
  | nil => rfl
  | cons e rest ih =>
      have hadd : addAll s (e :: rest) = addAll (put e.1 e.2 s) rest := rfl
      rw [hadd, ih, List.reverse_cons, find?_append, Option.or_assoc, find?_put, find?_cons]
      split <;> rfl

theorem mem_of_find? {key : String} {value : α} {entries : List (String × α)}
    (h : find? key entries = some value) : (key, value) ∈ entries := by
  obtain ⟨e, he, rfl⟩ := Option.map_eq_some_iff.mp h
  have hkey : e.1 = key := by simpa using List.find?_some he
  exact hkey ▸ List.mem_of_find?_eq_some he

theorem exists_find?_of_mem {key : String} {value : α} {entries : List (String × α)}
    (h : (key, value) ∈ entries) : ∃ found, find? key entries = some found := by
  have hsome : (entries.find? (·.1 = key)).isSome = true :=
    List.find?_isSome.mpr ⟨_, h, decide_eq_true rfl⟩
  obtain ⟨e, he⟩ := Option.isSome_iff_exists.mp hsome
  exact ⟨e.2, by rw [find?, he]; rfl⟩

/-- Entries whose keys differ are found. -/
theorem find?_eq_some_iff {key : String} {value : α} {entries : List (String × α)}
    (h : (entries.map (·.1)).Nodup) :
    find? key entries = some value ↔ (key, value) ∈ entries := by
  refine ⟨mem_of_find?, fun hmem => ?_⟩
  induction entries with
  | nil => cases hmem
  | cons e rest ih =>
      obtain ⟨hnot, hrest⟩ := List.nodup_cons.mp h
      rw [find?_cons]
      rcases List.mem_cons.mp hmem with rfl | hmem
      · exact if_pos rfl
      · have hkey : e.1 ≠ key := by
          rintro rfl
          exact hnot (List.mem_map.mpr ⟨_, hmem, rfl⟩)
        rw [if_neg hkey, ih hrest hmem]

theorem nodup_keys {entries : List (String × α)} (h : Sorted entries) :
    (entries.map (·.1)).Nodup := by
  refine List.pairwise_map.mpr (h.imp fun hlt heq => ?_)
  exact String.lt_irrefl _ (heq ▸ hlt)

/-- Of two lists with the same keys, the entries with the same key stand beside each other. -/
theorem mem_zip_iff {β : Type} {given : List (String × α)} {entries : List (String × β)}
    (h : given.map (·.1) = entries.map (·.1)) (hkeys : (entries.map (·.1)).Nodup)
    {a : String × α} {b : String × β} :
    (a, b) ∈ given.zip entries ↔ a ∈ given ∧ b ∈ entries ∧ a.1 = b.1 := by
  have hlength : given.length = entries.length := by simpa using congrArg List.length h
  have hfirst : (given.zip entries).map Prod.fst = given :=
    List.map_fst_zip (Nat.le_of_eq hlength)
  have hsecond : (given.zip entries).map Prod.snd = entries :=
    List.map_snd_zip (Nat.le_of_eq hlength.symm)
  have hkey : (given.zip entries).map (Prod.fst ∘ Prod.fst) =
      (given.zip entries).map (Prod.fst ∘ Prod.snd) := by
    rw [← List.map_map, ← List.map_map, hfirst, hsecond]
    exact h
  have hbeside : ∀ pair ∈ given.zip entries, pair.1.1 = pair.2.1 := List.map_eq_map_iff.mp hkey
  constructor
  · intro hmem
    obtain ⟨ha, hb⟩ := List.of_mem_zip hmem
    exact ⟨ha, hb, hbeside _ hmem⟩
  · rintro ⟨ha, hb, hab⟩
    rw [← hfirst] at ha
    obtain ⟨pair, hpair, rfl⟩ := List.mem_map.mp ha
    have hsame : pair.2 = b := List.inj_on_of_nodup_map hkeys (List.of_mem_zip hpair).2 hb
      ((hbeside pair hpair).symm.trans hab)
    exact hsame ▸ hpair

end Entries

namespace Table

theorem get?_eq_some_iff {t : Table α} {key : String} {value : α} :
    t.get? key = some value ↔ (key, value) ∈ t.entries :=
  Entries.find?_eq_some_iff (Entries.nodup_keys t.sorted)

theorem nodup_keys (t : Table α) : t.keys.Nodup := Entries.nodup_keys t.sorted

theorem get?_insert (t : Table α) (key looked : String) (value : α) :
    (t.insert key value).get? looked = if key = looked then some value else t.get? looked :=
  Entries.find?_put key looked value t.entries

theorem get?_foldl_insert (t : Table α) (entries : List (String × α)) (key : String) :
    (entries.foldl (fun t e => t.insert e.1 e.2) t).get? key =
      (Entries.find? key entries.reverse).or (t.get? key) := by
  have hentries : (entries.foldl (fun t e => t.insert e.1 e.2) t).entries =
      Entries.addAll t.entries entries := by
    induction entries generalizing t with
    | nil => rfl
    | cons e rest ih => exact ih (t.insert e.1 e.2)
  rw [get?, hentries, Entries.find?_addAll]
  rfl

theorem get?_ofList {entries : List (String × α)} (h : (entries.map (·.1)).Nodup)
    {key : String} {value : α} :
    (ofList entries).get? key = some value ↔ (key, value) ∈ entries := by
  have hreverse : (entries.reverse.map (·.1)).Nodup := by
    rw [List.map_reverse]
    exact List.nodup_reverse.mpr h
  rw [get?, ofList, Entries.find?_addAll, ← List.mem_reverse,
    ← Entries.find?_eq_some_iff hreverse]
  cases Entries.find? key entries.reverse <;> simp [Entries.find?]

/-- A table of entries whose keys differ has all of them. -/
theorem perm_ofList {entries : List (String × α)} (h : (entries.map (·.1)).Nodup) :
    (ofList entries).entries.Perm entries := by
  have hperm := Entries.perm_addAll (s := []) (by rwa [List.append_nil])
  rwa [List.append_nil] at hperm

/-- Tables with the same entries are the same. -/
theorem eq_of_perm {s t : Table α} (h : s.entries.Perm t.entries) : s = t := by
  refine ext_entries (h.eq_of_pairwise ?_ s.sorted t.sorted)
  intro a b _ _ hab hba
  exact absurd (String.lt_trans hab hba) (String.lt_irrefl _)

/-- The entries of a table, put in the order of their keys. -/
theorem mergeSort_eq_entries {t : Table α} {listing : List (String × α)}
    (h : listing.Perm t.entries) :
    listing.mergeSort (fun a b => decide (a.1 ≤ b.1)) = t.entries := by
  have hperm := (List.mergeSort_perm listing fun a b => decide (a.1 ≤ b.1)).trans h
  have hsorted : t.entries.Pairwise fun a b => a.1 ≤ b.1 :=
    t.sorted.imp fun hlt => String.not_lt.mp fun hgt =>
      String.lt_irrefl _ (String.lt_trans hlt hgt)
  refine hperm.eq_of_pairwise ?_ (pairwise_mergeSort_by Prod.fst listing) hsorted
  intro a b ha hb hab hba
  exact List.inj_on_of_nodup_map (nodup_keys t) (hperm.subset ha) hb (String.le_antisymm hab hba)

end Table

end ToolAgent
