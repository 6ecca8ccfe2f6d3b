import Mathlib.Data.List.Forall2
import ToolAgent.Json.Reader

/-!
# Reading values

Readers walk over texts and over values alike. Over a value nothing can be broken, and what a reader
takes can be told of the value alone.

* `string_eq_ok`, `option_eq_ok`, `list_eq_ok` — what the plain readers take.
* `Fills` — what becomes of one field of a record when values under its key are met.
-/

namespace ToolAgent.Json

/-- The values of the members with this key. -/
def valuesOf (key : String) (members : List (String × Value)) : List Value :=
  (members.filter (·.1 = key)).map (·.2)

theorem valuesOf_nil (key : String) : valuesOf key [] = [] := rfl

theorem valuesOf_cons_self (key : String) (v : Value) (rest : List (String × Value)) :
    valuesOf key ((key, v) :: rest) = v :: valuesOf key rest := by
  simp [valuesOf]

theorem valuesOf_cons_of_ne {key other : String} (h : other ≠ key) (v : Value)
    (rest : List (String × Value)) : valuesOf key ((other, v) :: rest) = valuesOf key rest := by
  simp [valuesOf, h]

namespace Read

variable {α σ : Type} {reader : Reader α} {v : Value}

/-! ## Plain readers -/

theorem string_eq_ok {s : String} : string (.given v) = .ok s ↔ v = .string s := by
  cases v <;> simp [string, Node.unfold]

theorem option_eq_ok {a : Option α} : option reader (.given v) = .ok a ↔
    (v = .null ∧ a = none) ∨ (v ≠ .null ∧ ∃ b, reader (.given v) = .ok b ∧ a = some b) := by
  have hmap : (reader (.given v)).map some = .ok a ↔
      ∃ b, reader (.given v) = .ok b ∧ a = some b := by
    cases reader (.given v) <;> simp [Except.map, eq_comm]
  cases v <;> simp_all [option, Node.unfold, eq_comm]

theorem items_eq_ok {vs : List Value} {as : List α} : items reader (Items.ofList vs) = .ok as ↔
    List.Forall₂ (fun v a => reader (.given v) = .ok a) vs as := by
  induction vs generalizing as with
  | nil => simp [Items.ofList, items, eq_comm]
  | cons v vs ih =>
      rw [Items.ofList, items, List.forall₂_cons_left_iff]
      cases hv : reader (.given v) with
      | error f => simp
      | ok a =>
          simp only [← ih, Except.ok.injEq]
          cases items reader (Items.ofList vs) with
          | error f => simp [Except.map]
          | ok more => simp [Except.map, eq_comm]

theorem list_eq_ok {as : List α} : list reader (.given v) = .ok as ↔
    ∃ vs, v = .list vs ∧ List.Forall₂ (fun v a => reader (.given v) = .ok a) vs as := by
  cases v <;> simp [list, Node.unfold, items_eq_ok]

/-! ## Fields of a record -/

/-- One field of a record, before and after values under its key: it is read at most once. -/
inductive Fills (reader : Reader α) : Option α → List Value → Option α → Prop
  | keeps (a : Option α) : Fills reader a [] a
  | reads {v : Value} {a : α} (h : reader (.given v) = .ok a) : Fills reader none [v] (some a)

theorem fills_nil {a b : Option α} : Fills reader a [] b ↔ a = b := by
  constructor
  · rintro ⟨⟩
    rfl
  · rintro rfl
    exact .keeps a

theorem fills_cons {a b : Option α} {vs : List Value} : Fills reader a (v :: vs) b ↔
    a = none ∧ ∃ x, reader (.given v) = .ok x ∧ Fills reader (some x) vs b := by
  constructor
  · intro h
    cases h with
    | reads h => exact ⟨rfl, _, h, .keeps _⟩
  · rintro ⟨rfl, x, hx, hrest⟩
    cases hrest with
    | keeps => exact .reads hx

/-- A member that no field asks for is skipped. -/
theorem members_cons_skip {fields : List (Field σ)} {key : String}
    (hfind : fields.find? (·.answersTo key) = none) (s : σ) (v : Value)
    (rest : List (String × Value)) :
    members fields s (Members.ofList ((key, v) :: rest)) =
      members fields s (Members.ofList rest) := by
  rw [Members.ofList, members]
  simp only [hfind, Node.skip]

/-- A member with the key of a field is read into it, unless the field has been read. -/
theorem members_cons_field {fields : List (Field σ)} {key name : String} {get : σ → Option α}
    {set : α → σ → σ} (hfind : fields.find? (·.answersTo key) = some (field name reader get set))
    {s : σ} {rest : List (String × Value)} {read : σ × Option Spot} :
    members fields s (Members.ofList ((key, v) :: rest)) = .ok read ↔
      get s = none ∧ ∃ x, reader (.given v) = .ok x ∧
        members fields (set x s) (Members.ofList rest) = .ok read := by
  rw [Members.ofList, members]
  simp only [hfind, field]
  cases get s with
  | some a => simp
  | none =>
      cases hv : reader (.given v) with
      | error f => simp [Except.map]
      | ok x => simp [Except.map]

/-- The next item of a value is read into the next field. -/
theorem positions_cons_field {fields : List (Field σ)} {name : String} {get : σ → Option α}
    {set : α → σ → σ} {s : σ} {vs : List Value} {read : σ × Option Spot × Items} :
    positions s none (field name reader get set :: fields) (Items.ofList (v :: vs)) = .ok read ↔
      ∃ x, reader (.given v) = .ok x ∧
        positions (set x s) none fields (Items.ofList vs) = .ok read := by
  rw [Items.ofList, positions]
  simp only [field]
  cases hv : reader (.given v) with
  | error f => simp [Except.map]
  | ok x => simp [Except.map]

end Read

end ToolAgent.Json
