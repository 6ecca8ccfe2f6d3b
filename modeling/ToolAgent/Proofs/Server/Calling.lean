import ToolAgent.Proofs.Server.Loading
import ToolAgent.Proofs.Server.Replying
import ToolAgent.Proofs.Server.Sending
import ToolAgent.Proofs.Text.Occurrences

/-!
# Calls to servers

A tool use that names a server's tool becomes a call: it goes to the server that the name begins
with, and carries the tool that the rest of the name says and the arguments of the model, as long as
none of those is missing that the tool asks for.

* `Carries` — the call that stands for a tool use, and `Uncallable` — when there is none.
  `Manager.resolveServerTool_carries` says that it is one or the other.
* `InUse` — clients that were only used for requests and notifications, as those of servers that
  have been started and listed.
* `Served` — calls that are made one after the other, and what the servers say to them. They change
  no name and no specification (`Keeps`).
-/

namespace ToolAgent

open Json (Value)
open ServerName (delimiter)

variable {π : Type}

/-! ## From a tool use to a call -/

/-- What a name is cut into: the server's name ends where the delimiter first stands. -/
structure NamesTool (name server tool : String) : Prop where
  eq : name = server ++ "___" ++ tool
  first : ∀ place, Text.OccursAt "___".toList name.toList place → server.toList.length ≤ place

theorem namesTool_iff {name server tool : String} :
    NamesTool name server tool ↔ Text.cut name delimiter = some (server, tool) := by
  have hname : name = server ++ "___" ++ tool ↔
      name.toList = server.toList ++ (delimiter.toList ++ tool.toList) := by
    rw [← String.toList_inj, String.toList_append, String.toList_append, List.append_assoc]
    rfl
  have hcut : Text.cut name delimiter = some (server, tool) ↔
      Text.cut? delimiter.toList name.toList = some (server.toList, tool.toList) := by
    rw [Text.cut, Option.map_eq_some_iff]
    constructor
    · rintro ⟨⟨before, rest⟩, hcut, hpair⟩
      obtain ⟨rfl, rfl⟩ := Prod.mk.inj hpair
      rw [hcut, String.toList_ofList, String.toList_ofList]
    · intro hcut
      exact ⟨_, hcut, by simp only [String.ofList_toList]⟩
  rw [hcut, Text.cut?_eq_some_iff, ← hname]
  exact ⟨fun h => ⟨h.eq, h.first⟩, fun h => ⟨h.1, h.2⟩⟩

/-- The tool use has the name of one of the program's own tools. -/
def ToolUse.IsBuiltIn (use : ToolUse) : Prop := use.name ∈ ["fs_read", "fs_write", "execute_bash"]

/-- The schema of the tool lists the key as required. -/
def ToolSpec.Requires (spec : ToolSpec) (key : String) : Prop :=
  ∃ items, spec.inputSchema.get? "required" = some (.list items) ∧ .string key ∈ items

/-- The value is an object with this key. -/
def Json.Value.HasKey (v : Value) (key : String) : Prop :=
  ∃ ms, v = .object ms ∧ key ∈ ms.map (·.1)

theorem mem_requiredArgs {spec : ToolSpec} {key : String} :
    key ∈ spec.requiredArgs ↔ spec.Requires key := by
  rw [ToolSpec.requiredArgs, ToolSpec.Requires]
  cases spec.inputSchema.get? "required" with
  | none => simp
  | some v =>
      cases v with
      | list items =>
          have hstring : ∀ v : Value, v.asString? = some key ↔ v = .string key := by
            intro v
            cases v <;> simp [Value.asString?]
          simp [Value.asList?, hstring]
      | _ => simp [Value.asList?]

theorem hasKey_iff {v : Value} {key : String} : v.HasKey key ↔ (v.get? key).isSome = true := by
  cases v with
  | object ms => simp [Value.HasKey, Value.get?, Entries.find?]
  | _ => simp [Value.HasKey, Value.get?]

/-- The call carries what the tool use says, to the server that it names. -/
structure ServerCall.Carries (m : Manager π) (use : ToolUse) (call : ServerCall) : Prop where
  name : NamesTool use.name call.server call.tool
  registered : ∃ client, m.clients.get? call.server = some client
  method : call.method = "tools/call"
  params : call.params = .object [
    ("arguments", if use.args = .null then .object [] else use.args), ("name", .string call.tool)]
  required : ∀ spec, m.specs.get? use.name = some spec → ∀ key, spec.Requires key →
    use.args.HasKey key

namespace Manager

/-- No call can stand for the tool use. -/
inductive Uncallable (m : Manager π) (use : ToolUse) : Prop
  | unnamed : ¬ "___".toList <:+: use.name.toList → Uncallable m use
  | unknown {server tool : String} : NamesTool use.name server tool →
      m.clients.get? server = none → Uncallable m use
  | missing {spec : ToolSpec} {key : String} : m.specs.get? use.name = some spec →
      spec.Requires key → ¬ use.args.HasKey key → Uncallable m use

/-- A call that stands for a tool use rules out that there is none. -/
theorem Uncallable.not_carries {m : Manager π} {use : ToolUse} (h : m.Uncallable use)
    (call : ServerCall) : ¬ call.Carries m use := by
  intro hcarries
  have hcut := namesTool_iff.mp hcarries.name
  cases h with
  | unnamed hpart =>
      refine hpart ⟨call.server.toList, call.tool.toList, ?_⟩
      rw [hcarries.name.eq, String.toList_append, String.toList_append]
  | unknown hname hnone =>
      obtain ⟨rfl, -⟩ := Prod.mk.inj (Option.some.inj (hcut.symm.trans (namesTool_iff.mp hname)))
      obtain ⟨client, hclient⟩ := hcarries.registered
      rw [hnone] at hclient
      cases hclient
  | missing hspec hrequires hkey => exact hkey (hcarries.required _ hspec _ hrequires)

theorem missingArgs_eq_nil_iff {spec : ToolSpec} {args : Value} :
    missingArgs spec args = [] ↔ ∀ key, spec.Requires key → args.HasKey key := by
  simp only [missingArgs, List.filter_eq_nil_iff, mem_requiredArgs, hasKey_iff]
  simp [Option.isSome_iff_ne_none]

theorem params_eq (use : ToolUse) (server label tool method : String) :
    (⟨server, label, tool, use.name, method,
      if use.args.isNull then none else some use.args⟩ : ServerCall).params = .object [
        ("arguments", if use.args = .null then .object [] else use.args),
        ("name", .string tool)] := by
  rw [ServerCall.params]
  cases use.args <;> rfl

/-- **A tool use of a server's tool** becomes a call that carries it, or there is none and the tool
use fails. -/
theorem resolveServerTool_carries (m : Manager π) (use : ToolUse) :
    (∃ text, m.resolveServerTool use = .error (.failure use.id text) ∧ m.Uncallable use) ∨
      ∃ call : ServerCall, m.resolveServerTool use = .ok (.server call) ∧ call.Carries m use := by
  rw [resolveServerTool]
  cases hcut : Text.cut use.name delimiter with
  | none =>
      have hnone := (Text.cut?_eq_none_iff (by decide)).mp (Option.map_eq_none_iff.mp hcut)
      exact .inl ⟨_, rfl, .unnamed hnone⟩
  | some parts =>
      obtain ⟨server, tool⟩ := parts
      have hname := namesTool_iff.mpr hcut
      dsimp only
      cases hclient : m.clients.get? server with
      | none => exact .inl ⟨_, rfl, .unknown hname hclient⟩
      | some client =>
          have hcarries (hrequired : ∀ spec, m.specs.get? use.name = some spec →
              ∀ key, spec.Requires key → use.args.HasKey key) :
              (⟨server, client.label, tool, use.name, ServerCall.callMethod,
                if use.args.isNull then none else some use.args⟩ : ServerCall).Carries m use :=
            ⟨hname, ⟨client, hclient⟩, rfl, params_eq .., hrequired⟩
          dsimp only
          cases hspec : m.specs.get? use.name with
          | none =>
              -- Without a specification nothing is required.
              refine .inr ⟨_, if_neg (not_not_intro rfl), hcarries fun spec hother => ?_⟩
              rw [hspec] at hother
              cases hother
          | some spec =>
              dsimp only
              by_cases hmissing : missingArgs spec use.args = []
              · refine .inr ⟨_, if_neg (not_not_intro hmissing), hcarries fun other hother => ?_⟩
                obtain rfl := Option.some.inj (hspec.symm.trans hother)
                exact missingArgs_eq_nil_iff.mp hmissing
              · rw [if_pos hmissing]
                rw [missingArgs_eq_nil_iff] at hmissing
                push Not at hmissing
                obtain ⟨key, hrequires, hkey⟩ := hmissing
                exact .inl ⟨_, rfl, .missing hspec hrequires hkey⟩

/-- A tool use with another name than those of the program's own tools is resolved to a call, if it
is resolved. -/
theorem resolve_of_not_builtIn {m : Manager π} {use : ToolUse} (h : ¬ use.IsBuiltIn) :
    m.resolve use = m.resolveServerTool use := by
  simp only [ToolUse.IsBuiltIn, List.mem_cons, List.not_mem_nil, or_false, not_or] at h
  rw [resolve, if_neg h.1, if_neg h.2.1, if_neg h.2.2]

/-! ## Clients in use -/

section InUse

variable [Peer π] {m : Manager π} {name : String} {client : Client π}

/-- The clients were made for their peers, and only used for requests and notifications. -/
def InUse (m : Manager π) : Prop :=
  ∀ name client, m.clients.get? name = some client → client.Used

theorem InUse.insert (h : m.InUse) (hclient : client.Used) :
    InUse { m with clients := m.clients.insert name client } := by
  intro looked other hother
  rw [Table.get?_insert] at hother
  split at hother
  · obtain rfl := Option.some.inj hother
    exact hclient
  · exact h looked other hother

/-- So they are when the servers of a configuration have been started. -/
theorem inUse_ofConfigBy (nameOf : String → String) (launch : ServerConfig → Except String π)
    (timeoutSecs : Nat) (config : ServerTable) :
    (ofConfigBy nameOf launch timeoutSecs config).InUse := by
  intro name client hclient
  obtain ⟨original, c, -, -, hstarted⟩ := get?_ofConfigBy.mp hclient
  revert hstarted
  fun_cases startServer launch timeoutSecs name c with
  | case1 e hlaunch => exact nofun
  | case2 peer hlaunch seconds answer introduced hintroduced =>
      rintro ⟨⟩
      have hused := (Client.Used.ofPeer name (seconds * 1000) peer).introduce
      rwa [hintroduced] at hused
  | case3 peer hlaunch seconds e introduced hintroduced => exact nofun

/-- And so they are when the tools have been loaded. -/
theorem InUse.load (h : m.InUse) {pages : Nat} {loaded : Manager π}
    (hload : m.load pages = some loaded) : loaded.InUse := by
  obtain ⟨⟨listed, tools⟩, hlist, rfl⟩ := Option.map_eq_some_iff.mp hload
  obtain ⟨rfl, -⟩ := listServers_eq_some hlist
  intro name client hclient
  have hget := (Table.get?_foldl_insert _ _ _).symm.trans hclient
  rcases Option.or_eq_some_iff.mp hget with hfind | ⟨-, hold⟩
  · obtain ⟨e, he, heq⟩ :=
      List.mem_map.mp (List.mem_reverse.mp (Entries.mem_of_find? hfind))
    obtain ⟨rfl, rfl⟩ := Prod.mk.inj heq
    have hused := h e.1 e.2 (Table.get?_eq_some_iff.mpr he)
    exact Listing.follow_keeps (fun _ params hc => hc.request _ params) hused pages none
  · exact h name client hold

end InUse

/-! ## Calls that are made -/

/-- What a server's answer says of the call. -/
theorem readAnswer_cases (answer : Value) :
    (answer.get? "isError" = some (.bool true) ∧ ∃ e, readAnswer answer = .error e) ∨
      answer.get? "isError" ≠ some (.bool true) ∧
        readAnswer answer = .ok (.json ((answer.get? "content").getD answer)) := by
  have hflag : (answer.get? "isError").bind Value.asBool? = some true ↔
      answer.get? "isError" = some (.bool true) := by
    cases answer.get? "isError" with
    | none => simp
    | some v => cases v <;> simp [Value.asBool?]
  rw [readAnswer, ← hflag, ne_eq, ← hflag]
  by_cases htrue : (answer.get? "isError").bind Value.asBool? = some true
  · exact .inl ⟨htrue, _, if_pos htrue⟩
  · exact .inr ⟨htrue, if_neg htrue⟩

/-- Calls leave the specifications alone, and the names under which servers are registered. -/
structure Keeps (m m' : Manager π) : Prop where
  specs : m'.specs = m.specs
  clients : ∀ name, (m'.clients.get? name).isSome = (m.clients.get? name).isSome

theorem Keeps.refl (m : Manager π) : m.Keeps m := ⟨rfl, fun _ => rfl⟩

theorem Keeps.trans {m m' m'' : Manager π} (h : m.Keeps m') (h' : m'.Keeps m'') : m.Keeps m'' :=
  ⟨h'.specs.trans h.specs, fun name => (h'.clients name).trans (h.clients name)⟩

/-- A client may change in its place. -/
theorem keeps_insert {m : Manager π} {name : String} {client : Client π}
    (hclient : m.clients.get? name = some client) (other : Client π) :
    m.Keeps { m with clients := m.clients.insert name other } := by
  refine ⟨rfl, fun looked => ?_⟩
  rw [Table.get?_insert]
  split
  · next hlooked => rw [← hlooked, hclient]; rfl
  · rfl

namespace Keeps

variable {m m' : Manager π} {use : ToolUse}

theorem exists_client (h : m.Keeps m') {name : String} {client : Client π}
    (hclient : m.clients.get? name = some client) :
    ∃ client', m'.clients.get? name = some client' :=
  Option.isSome_iff_exists.mp (by rw [h.clients, hclient]; rfl)

theorem symm (h : m.Keeps m') : m'.Keeps m := ⟨h.specs.symm, fun name => (h.clients name).symm⟩

theorem carries (h : m.Keeps m') {call : ServerCall} (hcarries : call.Carries m use) :
    call.Carries m' use where
  name := hcarries.name
  registered := hcarries.registered.elim fun _ hclient => h.exists_client hclient
  method := hcarries.method
  params := hcarries.params
  required := fun spec hspec => hcarries.required spec (h.specs ▸ hspec)

theorem uncallable (h : m.Keeps m') (hnone : m.Uncallable use) : m'.Uncallable use := by
  cases hnone with
  | unnamed hpart => exact .unnamed hpart
  | @unknown server tool hname hclient =>
      have hsame := h.clients server
      rw [hclient] at hsame
      exact .unknown hname (Option.not_isSome_iff_eq_none.mp (by simp [hsame]))
  | missing hspec hrequires hkey => exact .missing (h.specs.symm ▸ hspec) hrequires hkey

end Keeps

section Made

variable [Peer π]

/-- The requests that calls make of one server, in order. -/
def requestsTo (name : String) (calls : List (ServerCall × Option (Option Rpc.Reply))) :
    List (String × Option Value) :=
  (calls.filter (·.1.server = name)).map fun c => (c.1.method, some c.1.params)

/-- Calls are made one after the other, each by the client that is registered for its server, and
this is what the peers' outputs say to them. -/
inductive Served : Manager π → List (ServerCall × Option (Option Rpc.Reply)) → Manager π → Prop
  | nil {m : Manager π} : Served m [] m
  | cons {m m' : Manager π} {call : ServerCall} {client : Client π}
      {rest : List (ServerCall × Option (Option Rpc.Reply))} :
      m.clients.get? call.server = some client →
      Served
        { m with
          clients := m.clients.insert call.server
            (client.request call.method (some call.params)).2 } rest m' →
      Served m ((call, client.replyTo call.method (some call.params)) :: rest) m'

variable {m m' m'' : Manager π} {name : String}

namespace Served

variable {calls later : List (ServerCall × Option (Option Rpc.Reply))}

theorem append (h : Served m calls m') (h' : Served m' later m'') :
    Served m (calls ++ later) m'' := by
  induction h with
  | nil => exact h'
  | cons hclient _ ih => exact .cons hclient (ih h')

theorem keeps (h : Served m calls m') : m.Keeps m' := by
  induction h with
  | nil => exact .refl _
  | cons hclient _ ih => exact (keeps_insert hclient _).trans ih

theorem inUse (h : Served m calls m') (hused : m.InUse) : m'.InUse := by
  induction h with
  | nil => exact hused
  | cons hclient _ ih => exact ih (hused.insert ((hused _ _ hclient).request _ _))

/-- A client makes the calls to its server, in order, and nothing else. -/
theorem get?_clients (h : Served m calls m') {client : Client π}
    (hclient : m.clients.get? name = some client) :
    m'.clients.get? name = some (client.requestAll (requestsTo name calls)).2 := by
  induction h generalizing client with
  | nil => exact hclient
  | @cons m m' call own rest hown _ ih =>
      by_cases hname : call.server = name
      · subst hname
        obtain rfl := Option.some.inj (hown.symm.trans hclient)
        rw [ih (by rw [Table.get?_insert, if_pos rfl]), requestsTo, requestsTo,
          List.filter_cons_of_pos (by simp), List.map_cons]
        rfl
      · rw [ih (by rw [Table.get?_insert, if_neg hname]; exact hclient), requestsTo, requestsTo,
          List.filter_cons_of_neg (by simpa using hname)]

/-- **What a server has heard** after calls: those that were made to it, in order, and nothing
else. -/
theorem exists_told (h : Served m calls m') {client : Client π}
    (hclient : m.clients.get? name = some client) :
    ∃ client', m'.clients.get? name = some client' ∧
      client'.peer = Peer.told client.peer (client.lines (requestsTo name calls)) :=
  ⟨_, h.get?_clients hclient, client.peer_requestAll _⟩

end Served

/-- A call to a server that is registered is a request of its client. -/
theorem call_eq {call : ServerCall} {client : Client π}
    (hclient : m.clients.get? call.server = some client) :
    m.call call =
      ((client.request call.method (some call.params)).1.bind readAnswer,
        { m with
          clients := m.clients.insert call.server
            (client.request call.method (some call.params)).2 }) := by
  rw [Manager.call, hclient]

end Made

end Manager

end ToolAgent
