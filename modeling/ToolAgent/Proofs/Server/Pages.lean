import Mathlib.Tactic.Tauto
import ToolAgent.Proofs.Json.Reading
import ToolAgent.Server.Listing

/-!
# What a page of a listing says

A server describes a tool by an object, or by a list of its fields in order. What may be left out
is filled in: an empty description, and a schema that takes any object.

* `Describes` — which values describe which tools.
* `Page.ofJson_eq_ok` — a page can be read if all that it lists describes tools, and it has these
  tools in the order of the page.
-/

namespace ToolAgent.Listing

open Json
open Json.Read

/-! ## One tool -/

/-- What the values under the key of a field come to that may be left out. -/
inductive Optional {α : Type} (default : α) (is : Value → α → Prop) : List Value → α → Prop
  | absent : Optional default is [] default
  | null : Optional default is [.null] default
  | given {v : Value} {a : α} (hne : v ≠ .null) (h : is v a) : Optional default is [v] a

/-- The description of a tool: empty, if there is none. -/
abbrev SaysText : List Value → String → Prop := Optional "" fun v text => v = .string text

/-- The schema of a tool; without one, any object will do. -/
abbrev SaysSchema : List Value → Value → Prop :=
  Optional (.object [("type", .string "object")]) fun v schema => v = schema

/-- The value describes the tool. -/
inductive Describes : Value → ToolSpec → Prop
  | object {ms : List (String × Value)} {name description : String} {schema : Value}
      (hname : valuesOf "name" ms = [.string name])
      (hdescription : SaysText (valuesOf "description" ms) description)
      (hschema : SaysSchema (valuesOf "inputSchema" ms) schema) :
      Describes (.object ms) ⟨name, description, schema⟩
  | list {vs : List Value} {name description : String} {schema : Value}
      (hname : vs.take 1 = [.string name])
      (hdescription : SaysText ((vs.drop 1).take 1) description)
      (hschema : SaysSchema ((vs.drop 2).take 1) schema) (hend : vs.drop 3 = []) :
      Describes (.list vs) ⟨name, description, schema⟩

/-- The members of a description fill the fields of the draft, each at most once. -/
theorem members_toolRecord {ms : List (String × Value)} {d d' : Draft} {stop : Option Spot} :
    members toolRecord.fields d (Members.ofList ms) = .ok (d', stop) ↔ stop = none ∧
      Fills string d.name (valuesOf "name" ms) d'.name ∧
      Fills (option string) d.description (valuesOf "description" ms) d'.description ∧
      Fills (option value) d.inputSchema (valuesOf "inputSchema" ms) d'.inputSchema := by
  induction ms generalizing d with
  | nil =>
      obtain ⟨name, description, schema⟩ := d
      obtain ⟨name', description', schema'⟩ := d'
      simp only [Members.ofList, members, valuesOf_nil, fills_nil, Except.ok.injEq,
        Prod.mk.injEq, Draft.mk.injEq]
      tauto
  | cons m rest ih =>
      obtain ⟨key, v⟩ := m
      obtain rfl | rfl | rfl | ⟨hname, hdescription, hschema⟩ : key = "name" ∨
          key = "description" ∨ key = "inputSchema" ∨
          key ≠ "name" ∧ key ≠ "description" ∧ key ≠ "inputSchema" := by tauto
      -- A key of a field adds to what fills that field alone; any other key is skipped.
      · rw [members_cons_field rfl, valuesOf_cons_self, fills_cons,
          valuesOf_cons_of_ne (by decide), valuesOf_cons_of_ne (by decide)]
        simp only [ih]
        tauto
      · rw [members_cons_field rfl, valuesOf_cons_self, fills_cons,
          valuesOf_cons_of_ne (by decide), valuesOf_cons_of_ne (by decide)]
        simp only [ih]
        tauto
      · rw [members_cons_field rfl, valuesOf_cons_self, fills_cons,
          valuesOf_cons_of_ne (by decide), valuesOf_cons_of_ne (by decide)]
        simp only [ih]
        tauto
      · have hfind : toolRecord.fields.find? (·.answersTo key) = none := by
          simp [toolRecord, field, Field.answersTo, Ne.symm hname, Ne.symm hdescription,
            Ne.symm hschema]
        rw [members_cons_skip hfind, valuesOf_cons_of_ne hname,
          valuesOf_cons_of_ne hdescription, valuesOf_cons_of_ne hschema, ih]

theorem fills_name {vs : List Value} {name : String} :
    Fills string none vs (some name) ↔ vs = [.string name] := by
  cases vs with
  | nil => simp [fills_nil]
  | cons v rest =>
      simp only [fills_cons, string_eq_ok, true_and]
      constructor
      · rintro ⟨s, rfl, hrest⟩
        cases hrest
        rfl
      · intro h
        obtain ⟨rfl, rfl⟩ := List.cons.inj h
        exact ⟨name, rfl, .keeps _⟩

theorem optional_iff {α : Type} {reader : Reader α} {default a : α} {vs : List Value} :
    Optional default (fun v a => reader (.given v) = .ok a) vs a ↔
      ∃ found, Fills (option reader) none vs found ∧ a = (found.getD none).getD default := by
  constructor
  · intro h
    cases h with
    | absent => exact ⟨none, .keeps _, rfl⟩
    | null => exact ⟨some none, .reads (option_eq_ok.mpr (.inl ⟨rfl, rfl⟩)), rfl⟩
    | given hne h => exact ⟨some (some a), .reads (option_eq_ok.mpr (.inr ⟨hne, a, h, rfl⟩)), rfl⟩
  · rintro ⟨found, hfound, rfl⟩
    cases hfound with
    | keeps => exact .absent
    | reads h =>
        rcases option_eq_ok.mp h with ⟨rfl, rfl⟩ | ⟨hne, b, hb, rfl⟩
        · exact .null
        · exact .given hne hb

theorem saysText_iff {vs : List Value} {text : String} :
    SaysText vs text ↔ ∃ a, Fills (option string) none vs a ∧ text = (a.getD none).getD "" := by
  rw [← optional_iff]
  simp only [string_eq_ok]

theorem saysSchema_iff {vs : List Value} {schema : Value} :
    SaysSchema vs schema ↔ ∃ a, Fills (option value) none vs a ∧
      schema = (a.getD none).getD (.object [("type", .string "object")]) := by
  rw [← optional_iff]
  simp only [value, Node.value, Except.ok.injEq]

/-- A description that is an object. -/
theorem toolRecord_read_object {ms : List (String × Value)} {spec : ToolSpec} :
    toolRecord.read (.given (.object ms)) = .ok spec ↔ Describes (.object ms) spec := by
  rw [Record.read, Record.readWith]
  simp only [Node.unfold, Bool.false_eq_true, if_false]
  constructor
  · intro h
    split at h
    · cases h
    · next d stop hmembers =>
      obtain ⟨name, description, schema⟩ := d
      obtain ⟨-, hname, hdescription, hschema⟩ := members_toolRecord.mp hmembers
      cases name with
      | none => cases h
      | some name =>
          cases h
          exact .object (fills_name.mp hname) (saysText_iff.mpr ⟨_, hdescription, rfl⟩)
            (saysSchema_iff.mpr ⟨_, hschema, rfl⟩)
  · intro h
    cases h with
    | object hname htext hvalue =>
        obtain ⟨description, hdescription, rfl⟩ := saysText_iff.mp htext
        obtain ⟨schema, hschema, rfl⟩ := saysSchema_iff.mp hvalue
        have hmembers : members toolRecord.fields toolRecord.start (Members.ofList ms) =
            .ok (⟨some _, description, schema⟩, none) :=
          members_toolRecord.mpr ⟨rfl, fills_name.mpr hname, hdescription, hschema⟩
        rw [hmembers]
        rfl

/-- The items of a description fill the fields of the draft, one after the other. -/
theorem positions_toolRecord {vs : List Value} {d : Draft} {closing : Option Spot}
    {rest : Items} :
    positions toolRecord.start none toolRecord.fields (Items.ofList vs) =
        .ok (d, closing, rest) ↔ closing = none ∧ rest = Items.ofList (vs.drop 3) ∧
      Fills string none (vs.take 1) d.name ∧
      Fills (option string) none ((vs.drop 1).take 1) d.description ∧
      Fills (option value) none ((vs.drop 2).take 1) d.inputSchema := by
  obtain ⟨name, description, schema⟩ := d
  rw [toolRecord]
  dsimp only
  -- As many items as there are fields, or fewer.
  rcases vs with _ | ⟨v, _ | ⟨w, _ | ⟨x, more⟩⟩⟩
  · simp only [List.drop_nil, List.take_nil, fills_nil]
    simp only [Items.ofList, positions, Except.ok.injEq, Prod.mk.injEq, Draft.mk.injEq]
    tauto
  · simp only [positions_cons_field, List.drop_succ_cons, List.drop_nil, List.take_succ_cons,
      List.take_nil, fills_nil, fills_cons]
    simp only [Items.ofList, positions, Except.ok.injEq, Prod.mk.injEq, Draft.mk.injEq]
    aesop
  · simp only [positions_cons_field, List.drop_succ_cons, List.drop_nil, List.take_succ_cons,
      List.take_nil, fills_nil, fills_cons, List.drop_zero, List.take_zero]
    simp only [Items.ofList, positions, Except.ok.injEq, Prod.mk.injEq, Draft.mk.injEq]
    aesop
  · simp only [positions_cons_field, List.drop_succ_cons, List.take_succ_cons, fills_nil,
      fills_cons, List.drop_zero, List.take_zero]
    simp only [positions, Except.ok.injEq, Prod.mk.injEq, Draft.mk.injEq]
    aesop

/-- A description that is a list. -/
theorem toolRecord_read_list {vs : List Value} {spec : ToolSpec} :
    toolRecord.read (.given (.list vs)) = .ok spec ↔ Describes (.list vs) spec := by
  rw [Record.read, Record.readWith]
  simp only [Node.unfold, Bool.false_eq_true, if_false]
  constructor
  · intro h
    split at h
    · cases h
    · next d closing rest hpositions =>
      obtain ⟨name, description, schema⟩ := d
      obtain ⟨rfl, rfl, hname, hdescription, hschema⟩ := positions_toolRecord.mp hpositions
      cases name with
      | none => cases h
      | some name =>
          cases hend : vs.drop 3 with
          | cons v more =>
              rw [hend] at h
              cases h
          | nil =>
              rw [hend] at h
              cases h
              exact .list (fills_name.mp hname) (saysText_iff.mpr ⟨_, hdescription, rfl⟩)
                (saysSchema_iff.mpr ⟨_, hschema, rfl⟩) hend
  · intro h
    cases h with
    | list hname htext hvalue hend =>
        obtain ⟨description, hdescription, rfl⟩ := saysText_iff.mp htext
        obtain ⟨schema, hschema, rfl⟩ := saysSchema_iff.mp hvalue
        have hpositions : positions toolRecord.start none toolRecord.fields (Items.ofList vs) =
            .ok (⟨some _, description, schema⟩, none, Items.ofList []) :=
          positions_toolRecord.mpr ⟨rfl, congrArg Items.ofList hend.symm, fills_name.mpr hname,
            hdescription, hschema⟩
        rw [hpositions]
        rfl

/-- **A tool can be read from what describes one**, and it is what is described. -/
theorem toolRecord_read {v : Value} {spec : ToolSpec} :
    toolRecord.read (.given v) = .ok spec ↔ Describes v spec := by
  cases v with
  | object ms => exact toolRecord_read_object
  | list vs => exact toolRecord_read_list
  | _ =>
      constructor
      · intro h
        cases h
      · intro h
        cases h

/-! ## One page -/

/-- The answer lists these tools; one that has no list at all lists none. -/
def Reports (answer : Value) (tools : List ToolSpec) : Prop :=
  ∃ vs, (answer.get? "tools").getD (.list []) = .list vs ∧ List.Forall₂ Describes vs tools

/-- The cursor of the next page, if the answer carries one. -/
def cursor? (answer : Value) : Option String := (answer.get? "nextCursor").bind Value.asString?

/-- **A page has the tools that the answer lists**, and can be read if it lists tools only. -/
theorem Page.ofJson_eq_ok {answer : Value} {page : Page} :
    Page.ofJson answer = .ok page ↔ Reports answer page.tools ∧ page.next = cursor? answer := by
  have hreports : ∀ tools, Reports answer tools ↔
      list toolRecord.read (.given ((answer.get? "tools").getD (.list []))) = .ok tools := by
    intro tools
    simp only [Reports, list_eq_ok, toolRecord_read]
  rw [hreports, Page.ofJson]
  cases list toolRecord.read (.given ((answer.get? "tools").getD (.list []))) with
  | error fault => simp
  | ok tools =>
      obtain ⟨tools', next⟩ := page
      simp [cursor?, eq_comm]

end ToolAgent.Listing
