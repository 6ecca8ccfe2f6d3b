import Mathlib.Logic.Function.Iterate
import ToolAgent.Proofs.Server.Namespace

/-!
# Servers and their names

However names are put in snake case and numbered, each server of a configuration has a name of its
own that the model can use, and which one it is does not depend on the order in which the servers
are found. So no client takes the place of another: `registered` says this of the servers that are
started, and of clients that are added one after the other to whatever there is.

A name is made in two loops, one that takes the delimiter out of it and one that makes it new; how
often they go round is bounded (`loops_collapse`, `loops_fresh`).
-/

namespace ToolAgent

/-- A loop that makes this many steps: before each of them it is to go on, and after the last one it
is not. -/
structure Loops {α : Type} (step : α → α) (goesOn : α → Prop) (start final : α) (n : Nat) :
    Prop where
  final_eq : final = step^[n] start
  before : ∀ k < n, goesOn (step^[k] start)
  after : ¬ goesOn final

namespace Loops

variable {α : Type} {step : α → α} {goesOn : α → Prop} {start final : α} {n : Nat}

theorem stop (h : ¬ goesOn start) : Loops step goesOn start start 0 :=
  ⟨rfl, fun _ hk => absurd hk (Nat.not_lt_zero _), h⟩

theorem round (hstart : goesOn start) (h : Loops step goesOn (step start) final n) :
    Loops step goesOn start final (n + 1) := by
  refine ⟨h.final_eq, fun k hk => ?_, h.after⟩
  cases k with
  | zero => exact hstart
  | succ k => exact h.before k (Nat.lt_of_succ_lt_succ hk)

end Loops

namespace ServerName

/-! ## The two loops -/

/-- Taking the delimiter out of a name ends, as the name gets shorter. -/
theorem loops_collapse (cs : List Char) :
    ∃ n ≤ cs.length, Loops squeeze (delimiter.toList <:+: ·) cs (collapse cs) n := by
  fun_induction collapse cs with
  | case1 cs h => exact ⟨0, Nat.zero_le _, .stop ((squeeze_eq_self_iff cs).mp h)⟩
  | case2 cs h ih =>
      obtain ⟨n, hn, hloops⟩ := ih
      have hshorter := (squeeze_eq_or_shorter cs).resolve_left h
      have hpart : delimiter.toList <:+: cs := by
        rw [squeeze_eq_self_iff, not_not] at h
        exact h
      exact ⟨n + 1, by omega, hloops.round hpart⟩

/-- Making a name new ends: each one that is put to it is longer than one more of the names that are
taken. -/
theorem loops_fresh (taken : List String) (name : String) :
    ∃ n ≤ taken.length, Loops (·.push '1') (· ∈ taken) name (fresh taken name) n := by
  suffices h : ∃ n ≤ rivals taken name, Loops (·.push '1') (· ∈ taken) name (fresh taken name) n by
    obtain ⟨n, hn, hloops⟩ := h
    exact ⟨n, hn.trans (List.length_filter_le _ _), hloops⟩
  fun_induction fresh taken name with
  | case1 name h ih =>
      obtain ⟨n, hn, hloops⟩ := ih
      have hfewer := rivals_push_lt h
      exact ⟨n + 1, by omega, hloops.round h⟩
  | case2 name h => exact ⟨0, Nat.zero_le _, .stop h⟩

/-! ## The names -/

/-- A name that the model can use: a letter, then letters, digits and underscores, but not the
delimiter. -/
structure Usable (name : String) : Prop where
  opening : ∃ c rest, name.toList = c :: rest ∧ c.isAlpha = true
  chars : ∀ c ∈ name.toList, c.isAlphanum = true ∨ c = '_'
  undivided : ¬ "___".toList <:+: name.toList

theorem usable_of_isValid {name : String} (h : isValid name.toList = true) : Usable name := by
  obtain ⟨⟨c, hhead, hc⟩, hchars, hpart⟩ := isValid_iff.mp h
  obtain ⟨rest, hrest⟩ := List.head?_eq_some_iff.mp hhead
  refine ⟨⟨c, rest, hrest, hc⟩, fun d hd => ?_, hpart⟩
  simpa [isNameChar] using hchars d hd

/-- Names for the servers of a configuration, made by `nameOf`: one for each, usable, different from
one another, and the same in whatever order the servers are found before they are sorted. -/
structure Names (nameOf : String → String) (config : ServerTable)
    (given : List (String × String)) : Prop where
  each : given.map (·.1) = config.keys
  usable : ∀ e ∈ given, Usable e.2
  differ : (given.map (·.2)).Nodup
  reproducible : ∀ listing : List (String × ServerConfig), listing.Perm config.entries →
    assignBy nameOf ((listing.mergeSort fun a b => decide (a.1 ≤ b.1)).map (·.1)) = given

theorem names_assignBy (snake : String → String) (number : String → UInt64)
    (config : ServerTable) : Names (sanitizeBy snake number) config
      (assignBy (sanitizeBy snake number) config.keys) := by
  refine ⟨map_fst_assignBy _ _, fun e he => ?_, nodup_assignBy _ _, fun listing hlisting => ?_⟩
  · exact usable_of_isValid (isValid_of_mem_assignFrom (isValid_sanitizeBy snake number) e he)
  · rw [Table.mergeSort_eq_entries hlisting]
    rfl

end ServerName

namespace Manager

variable {π : Type}

/-! ## The clients -/

/-- All of these clients are found under their names, and there are no others. -/
structure Holds (clients : Table (Client π)) (registered : List (String × Client π)) : Prop where
  found : ∀ e ∈ registered, clients.get? e.1 = some e.2
  size : clients.size = registered.length

theorem holds_of_perm {clients : Table (Client π)} {registered : List (String × Client π)}
    (h : clients.entries.Perm registered) : Holds clients registered :=
  ⟨fun _ he => Table.get?_eq_some_iff.mpr (h.symm.subset he), h.length_eq⟩

/-- Registers clients one after the other: the names that they are stored under, and the manager
then. -/
def addAll (m : Manager π) : List (String × Client π) → List (String × Client π) × Manager π
  | [] => ([], m)
  | (name, client) :: rest =>
    let (stored, m) := m.add name client
    let (later, m) := m.addAll rest
    ((stored, client) :: later, m)

/-- A client that is added comes to the others. -/
theorem perm_add (m : Manager π) (name : String) (client : Client π) :
    (m.add name client).2.clients.entries.Perm
      (((m.add name client).1, client) :: m.clients.entries) :=
  Entries.perm_put (ServerName.fresh_notMem m.clients.keys name) client

theorem perm_addAll (m : Manager π) (calls : List (String × Client π)) :
    (m.addAll calls).2.clients.entries.Perm ((m.addAll calls).1 ++ m.clients.entries) := by
  induction calls generalizing m with
  | nil => exact .refl _
  | cons call rest ih =>
      obtain ⟨name, client⟩ := call
      have hstep := perm_add m name client
      exact (ih (m.add name client).2).trans ((hstep.append_left _).trans List.perm_middle)

theorem map_snd_addAll (m : Manager π) (calls : List (String × Client π)) :
    (m.addAll calls).1.map (·.2) = calls.map (·.2) := by
  induction calls generalizing m with
  | nil => rfl
  | cons call rest ih => exact congrArg (call.2 :: ·) (ih (m.add call.1 call.2).2)

/-- **No client takes the place of another.** Whatever names the servers of a configuration have,
and however these are put in snake case and numbered, they are given `Names`. Those that start are
all registered under these, in whatever order that comes about; and so are all clients that are
added to a manager, beside those that it has. The loops that make the names end. -/
theorem registered [Peer π] (snake : String → String) (number : String → UInt64)
    (launch : ServerConfig → Except String π) (timeoutSecs : Nat) (config : ServerTable) :
    let nameOf := ServerName.sanitizeBy snake number
    let given := ServerName.assignBy nameOf config.keys
    let clients := (ofConfigBy nameOf launch timeoutSecs config).clients
    ServerName.Names nameOf config given ∧
    (∀ name client, clients.get? name = some client ↔
      ∃ original c, (original, name) ∈ given ∧ config.get? original = some c ∧
        startServer launch timeoutSecs name c = some client) ∧
    (∀ order, order.Perm (startServers launch timeoutSecs given config.entries) →
      Table.ofList order = clients ∧ Holds clients order) ∧
    (∀ (m : Manager π) (calls : List (String × Client π)),
      (m.addAll calls).1.map (·.2) = calls.map (·.2) ∧
        Holds (m.addAll calls).2.clients ((m.addAll calls).1 ++ m.clients.entries)) ∧
    (∀ cs, ∃ n ≤ cs.length,
      Loops ServerName.squeeze (ServerName.delimiter.toList <:+: ·) cs (ServerName.collapse cs) n) ∧
    ∀ taken name, ∃ n ≤ taken.length,
      Loops (·.push '1') (· ∈ taken) name (ServerName.fresh taken name) n := by
  refine ⟨ServerName.names_assignBy snake number config, fun _ _ => get?_ofConfigBy,
    fun order horder => ?_,
    fun m calls => ⟨map_snd_addAll m calls, holds_of_perm (perm_addAll m calls)⟩,
    ServerName.loops_collapse, ServerName.loops_fresh⟩
  have hstarted := nodup_started (ServerName.sanitizeBy snake number) launch timeoutSecs config
  have hkeys : (order.map (·.1)).Nodup := (horder.map _).nodup_iff.mpr hstarted
  have hclients := (Table.perm_ofList hstarted).trans horder.symm
  exact ⟨Table.eq_of_perm ((Table.perm_ofList hkeys).trans hclients.symm), holds_of_perm hclients⟩

/-- Names that fall together are told apart by ones. -/
example : ServerName.assignBy (fun _ => "x") ["a", "b", "c"] =
    [("a", "x"), ("b", "x1"), ("c", "x11")] := by decide +kernel

end Manager

end ToolAgent
