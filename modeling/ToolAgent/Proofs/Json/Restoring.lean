import ToolAgent.Proofs.Json.Reading

/-!
# Reading what was written

A reader *restores* what a writer writes if it reads every written value back as what was written.
Lists, tables and optional data are restored if their parts are, and a record is if the members that
are written for it take it from its start to where it is complete.

* `Restores.list`, `Restores.table`, `Restores.option` — what is made of parts.
* `Takes` — what members do to a record that is being read; `Record.read_object` ends the reading.
-/

namespace ToolAgent.Json

variable {α σ : Type} {reader : Reader α} {write : α → Value}

/-- Whatever is written, the reader reads it back. -/
def Restores (reader : Reader α) (write : α → Value) : Prop :=
  ∀ a, reader (.given (write a)) = .ok a

namespace Restores

/-! ## Plain types -/

theorem string : Restores Read.string .string := fun _ => rfl

theorem word (what : String) : Restores (Read.word what) fun n => .ofNat n.toNat := by
  intro n
  have hhigh : (n.toNat : Int) ≤ 0xFFFFFFFFFFFFFFFF := by
    have hlt := n.toNat_lt
    omega
  have hint : Read.integer what 0 0xFFFFFFFFFFFFFFFF (.given (.ofNat n.toNat)) =
      .ok (n.toNat : Int) := by
    simp [Read.integer, Value.ofNat, Node.unfold, hhigh]
  simp [Read.word, hint, Except.map]

/-! ## Lists, tables and optional data -/

theorem list (h : Restores reader write) :
    Restores (Read.list reader) fun as => .list (as.map write) := by
  intro as
  refine Read.list_eq_ok.mpr ⟨_, rfl, ?_⟩
  exact List.forall₂_map_left_iff.mpr (List.forall₂_same.mpr fun a _ => h a)

theorem entries (h : Restores reader write) (es : List (String × α)) :
    Read.entries reader (Members.ofList (es.map fun (k, a) => (k, write a))) = .ok es := by
  induction es with
  | nil => rfl
  | cons e rest ih =>
      rw [List.map_cons, Members.ofList, Read.entries]
      simp [h e.2, ih, Except.map]

/-- A table is written with the entries that it has, which make it again. -/
theorem table (h : Restores reader write) :
    Restores (fun node => (Read.map reader node).map Table.ofList) fun t : Table α =>
      .object (t.entries.map fun (k, a) => (k, write a)) := by
  intro t
  simp [Read.map, Node.unfold, h.entries, Except.map, Table.ofList_entries]

/-- Optional data is told from its absence if it is never written as `null`. -/
theorem option (h : Restores reader write) (hne : ∀ a, write a ≠ .null) (a : α) :
    Read.option reader (.given (write a)) = .ok (some a) :=
  Read.option_eq_ok.mpr (.inr ⟨hne a, a, h a, rfl⟩)

end Restores

namespace Read

/-! ## Records -/

variable {fields : List (Field σ)} {s t u : σ} {ms : List (String × Value)}

theorem field_read {name : String} {get : σ → Option α} {set : α → σ → σ} {node : Node} {a : α}
    (h : reader node = .ok a) : (field name reader get set).read node s = .ok (set a s) :=
  congrArg (Except.map (set · s)) h

/-- These members take a record that is being read from `s` to `t`, whatever follows them. -/
def Takes (fields : List (Field σ)) (s : σ) (ms : List (String × Value)) (t : σ) : Prop :=
  ∀ rest, members fields s (Members.ofList (ms ++ rest)) = members fields t (Members.ofList rest)

namespace Takes

theorem nil (s : σ) : Takes fields s [] s := fun _ => rfl

/-- A member with the key of a field that has not been read is read into it. -/
theorem cons {key : String} {v : Value} {f : Field σ}
    (hfind : fields.find? (·.answersTo key) = some f) (hnew : f.isRead s = false)
    (hread : f.read (.given v) s = .ok t) (h : Takes fields t ms u) :
    Takes fields s ((key, v) :: ms) u := by
  intro rest
  rw [List.cons_append, Members.ofList, members]
  simp only [hfind, hnew, hread, Bool.false_eq_true, if_false]
  exact h rest

theorem append {more : List (String × Value)} (h : Takes fields s ms t)
    (hmore : Takes fields t more u) : Takes fields s (ms ++ more) u := by
  intro rest
  rw [List.append_assoc, h, hmore]

/-- Members that are left out leave a record where it is. -/
theorem leftOut {p : Prop} [Decidable p] (h : ¬ p → Takes fields s ms t) :
    Takes fields s (if p then [] else ms) (if p then s else t) := by
  split
  · exact nil s
  · next hp => exact h hp

end Takes

/-- A record is read from members that take it to where it is complete. -/
theorem Record.read_object {record : Record σ α} {a : α}
    (h : Takes record.fields record.start ms s)
    (hfinish : record.finish ⟨fun _ name => .missingField name, fun _ => none⟩ s = .ok a) :
    record.read (.given (.object ms)) = .ok a := by
  have hmembers := h []
  rw [List.append_nil] at hmembers
  rw [Record.read, Record.readWith]
  simp only [Node.unfold, Bool.false_eq_true, if_false, hmembers]
  simp only [Members.ofList, members, hfinish]

end Read

end ToolAgent.Json
