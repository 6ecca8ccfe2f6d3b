import Mathlib.Data.List.Nodup
import ToolAgent.Proofs.Server.Naming
import ToolAgent.Proofs.Table
import ToolAgent.Server.Manager

/-!
# The names of servers' tools

The model knows a server's tool by the name of the server, the delimiter and the name of the tool,
and a tool use is resolved by cutting its name at the first delimiter. `namespaced` says what that
comes to: the name leads back to the tool exactly if the name of its server does not end with an
underscore. Otherwise the underscores at its end are taken for the beginning of the tool's name.

* `cut_qualified`: where the name of a tool is cut. `qualified_eq_iff`: when two are the same.
* `get?_ofConfigBy`: which servers there are. `exists_spec_of_load`: what is loaded of them.
* `namespaced`: both together.
-/

namespace ToolAgent

namespace ServerName

/-- So many underscores. -/
def underscores (n : Nat) : String := String.ofList (List.replicate n '_')

theorem underscores_add (m n : Nat) : underscores (m + n) = underscores m ++ underscores n := by
  rw [underscores, ← List.replicate_append_replicate, String.ofList_append]
  rfl

theorem underscores_append_delimiter (n : Nat) :
    underscores n ++ delimiter = delimiter ++ underscores n := by
  have hdelimiter : delimiter = underscores 3 := rfl
  rw [hdelimiter, ← underscores_add, ← underscores_add, Nat.add_comm]

theorem getLast?_append_underscores (s : String) {n : Nat} (h : n ≠ 0) :
    (s ++ underscores n).toList.getLast? = some '_' := by
  obtain ⟨m, rfl⟩ := Nat.exists_eq_succ_of_ne_zero h
  rw [String.toList_append, underscores, String.toList_ofList, List.replicate_succ',
    ← List.append_assoc, List.getLast?_concat]

end ServerName

/-- The tools that a server reports; none if its listing fails. -/
def Client.reportedTools {π : Type} [Peer π] (pages : Nat) (client : Client π) : List ToolSpec :=
  match (client.listTools pages).1 with
  | some (.ok tools) => tools
  | _ => []

namespace Manager

open ServerName (underscores isValid delimiter)

/-! ## Cutting the name of a tool -/

variable {server tool server' tool' : String}

/-- **Where the name of a tool is cut**: the underscores at the end of the server's name go to the
tool. -/
theorem cut_qualified (h : isValid server.toList = true) (tool : String) :
    ∃ front n, server = front ++ underscores n ∧ front.toList.getLast? ≠ some '_' ∧
      Text.cut (qualified server tool) delimiter = some (front, underscores n ++ tool) := by
  obtain ⟨front, n, hserver, hlast⟩ := Text.exists_eq_append_replicate '_' server.toList
  have hfront : ¬ delimiter.toList <:+: front := fun hpart =>
    (ServerName.isValid_iff.mp h).2.2 (hserver ▸ hpart.trans (List.prefix_append _ _).isInfix)
  have heq : server = String.ofList front ++ underscores n := by
    rw [underscores, ← String.ofList_append, ← hserver, String.ofList_toList]
  refine ⟨String.ofList front, n, heq, by rwa [String.toList_ofList], ?_⟩
  have hname : qualified server tool =
      String.ofList front ++ (delimiter ++ (underscores n ++ tool)) := by
    have hswap : underscores n ++ (delimiter ++ tool) = delimiter ++ (underscores n ++ tool) := by
      rw [← String.append_assoc, ServerName.underscores_append_delimiter, String.append_assoc]
    rw [qualified, heq, String.append_assoc, String.append_assoc, hswap]
  have hcut : Text.cut? delimiter.toList
      (front ++ (delimiter.toList ++ (underscores n ++ tool).toList)) =
      some (front, (underscores n ++ tool).toList) :=
    Text.cut?_run (n := 3) (a := '_') hfront hlast
  rw [Text.cut, hname, String.toList_append, String.toList_append, String.toList_ofList, hcut]
  exact congrArg (fun rest => some (String.ofList front, rest)) String.ofList_toList

/-- Only a server's name without an underscore at its end is cut off whole. -/
theorem cut_qualified_eq_iff (h : isValid server.toList = true) :
    Text.cut (qualified server tool) delimiter = some (server, tool) ↔
      server.toList.getLast? ≠ some '_' := by
  obtain ⟨front, n, rfl, hfront, hcut⟩ := cut_qualified h tool
  rw [hcut]
  constructor
  · intro heq
    obtain ⟨hsame, -⟩ := Prod.mk.inj (Option.some.inj heq)
    rwa [← hsame]
  · intro hlast
    obtain rfl : n = 0 := by
      by_contra hn
      exact hlast (ServerName.getLast?_append_underscores front hn)
    have hnone : underscores 0 = "" := rfl
    rw [hnone, String.append_empty, String.empty_append]

/-- The names of two tools are confused if one server's name is the other's with underscores at its
end, and these are what the names of the tools differ by. -/
def Confused (server tool server' tool' : String) : Prop :=
  ∃ n > 0, server' = server ++ underscores n ∧ tool = underscores n ++ tool'

theorem Confused.qualified_eq (h : Confused server tool server' tool') :
    qualified server tool = qualified server' tool' := by
  obtain ⟨n, -, rfl, rfl⟩ := h
  have hswap : delimiter ++ (underscores n ++ tool') = underscores n ++ (delimiter ++ tool') := by
    rw [← String.append_assoc, ← ServerName.underscores_append_delimiter, String.append_assoc]
  rw [qualified, qualified, String.append_assoc, String.append_assoc, String.append_assoc, hswap]

/-- **When two tools have one name.** -/
theorem qualified_eq_iff (h : isValid server.toList = true) (h' : isValid server'.toList = true) :
    qualified server tool = qualified server' tool' ↔
      (server = server' ∧ tool = tool') ∨ Confused server tool server' tool' ∨
        Confused server' tool' server tool := by
  constructor
  · intro heq
    obtain ⟨front, m, rfl, -, hcut⟩ := cut_qualified h tool
    obtain ⟨front', n, rfl, -, hcut'⟩ := cut_qualified h' tool'
    rw [heq, hcut'] at hcut
    obtain ⟨rfl, htools⟩ := Prod.mk.inj (Option.some.inj hcut)
    -- Each tool gets the underscores that its server has in excess of the other.
    rcases Nat.lt_trichotomy m n with hlt | rfl | hlt
    · obtain ⟨k, rfl⟩ := Nat.exists_eq_add_of_lt hlt
      rw [Nat.add_assoc, ServerName.underscores_add, String.append_assoc,
        String.append_right_inj] at htools
      exact .inr (.inl ⟨k + 1, Nat.succ_pos k,
        by rw [Nat.add_assoc, ServerName.underscores_add, String.append_assoc], htools.symm⟩)
    · exact .inl ⟨rfl, ((String.append_right_inj _).mp htools).symm⟩
    · obtain ⟨k, rfl⟩ := Nat.exists_eq_add_of_lt hlt
      rw [Nat.add_assoc, ServerName.underscores_add, String.append_assoc,
        String.append_right_inj] at htools
      exact .inr (.inr ⟨k + 1, Nat.succ_pos k,
        by rw [Nat.add_assoc, ServerName.underscores_add, String.append_assoc], htools⟩)
  · rintro (⟨rfl, rfl⟩ | hconfused | hconfused)
    · rfl
    · exact hconfused.qualified_eq
    · exact hconfused.qualified_eq.symm

/-! ## Resolving -/

section Resolving

variable {π : Type} {m : Manager π} {use : ToolUse}

/-- A name with the delimiter in it is no name of the program's own tools. -/
theorem resolve_qualified (h : use.name = qualified server tool) :
    m.resolve use = m.resolveServerTool use := by
  have hpart : delimiter.toList <:+: use.name.toList := by
    rw [h, qualified, String.toList_append, String.toList_append]
    exact List.infix_append _ _ _
  have hother : ∀ name ∈ ["fs_read", "fs_write", "execute_bash"],
      ¬ delimiter.toList <:+: name.toList := by decide
  have hne : ∀ name ∈ ["fs_read", "fs_write", "execute_bash"], use.name ≠ name :=
    fun name hname heq => hother name hname (heq ▸ hpart)
  simp only [List.forall_mem_cons] at hne
  rw [resolve, if_neg hne.1, if_neg hne.2.1, if_neg hne.2.2.1]

/-- Only what the name is cut into is called. -/
theorem cut_of_resolveServerTool {call : ServerCall}
    (h : m.resolveServerTool use = .ok (.server call)) :
    Text.cut use.name delimiter = some (call.server, call.tool) := by
  unfold resolveServerTool at h
  split at h
  · cases h
  · next server tool hcut =>
      split at h
      · cases h
      · dsimp only at h
        split at h
        · split at h
          · cases h
          · obtain rfl := Tool.server.inj (Except.ok.inj h)
            exact hcut
        · rw [if_neg (not_not_intro rfl)] at h
          obtain rfl := Tool.server.inj (Except.ok.inj h)
          exact hcut

/-- What the name is cut into is called if there is such a server and nothing is missing. -/
theorem exists_call_of_cut (hcut : Text.cut use.name delimiter = some (server, tool))
    {client : Client π} (hclient : m.clients.get? server = some client)
    {spec : ToolSpec} (hspec : m.specs.get? use.name = some spec)
    (hargs : missingArgs spec use.args = []) :
    ∃ call, m.resolveServerTool use = .ok (.server call) ∧
      call.server = server ∧ call.tool = tool := by
  refine ⟨⟨server, client.label, tool, use.name, ServerCall.callMethod,
    if use.args.isNull then none else some use.args⟩, ?_, rfl, rfl⟩
  rw [resolveServerTool, hcut]
  simp only [hclient, hspec, hargs]
  exact if_neg (not_not_intro rfl)

end Resolving

/-! ## Starting -/

variable {π : Type} [Peer π] {launch : ServerConfig → Except String π} {timeoutSecs pages : Nat}
  {config : ServerTable}

/-- Names are given in the order of the configuration, so each stands beside its server. -/
theorem mem_startServers {nameOf : String → String} {name : String} {client : Client π} :
    (name, client) ∈ startServers launch timeoutSecs (ServerName.assignBy nameOf config.keys)
        config.entries ↔
      ∃ original c, (original, name) ∈ ServerName.assignBy nameOf config.keys ∧
        config.get? original = some c ∧ startServer launch timeoutSecs name c = some client := by
  have hgiven : (ServerName.assignBy nameOf config.keys).map (·.1) = config.entries.map (·.1) :=
    ServerName.map_fst_assignBy nameOf config.keys
  have hkeys : (config.entries.map (·.1)).Nodup := Table.nodup_keys config
  rw [startServers, List.mem_filterMap]
  constructor
  · rintro ⟨⟨⟨original, given⟩, ⟨key, c⟩⟩, hmem, hstart⟩
    obtain ⟨started, hstarted, heq⟩ := Option.map_eq_some_iff.mp hstart
    obtain ⟨rfl, rfl⟩ := Prod.mk.inj heq
    obtain ⟨hassigned, hentry, rfl⟩ := (Entries.mem_zip_iff hgiven hkeys).mp hmem
    exact ⟨original, c, hassigned, Table.get?_eq_some_iff.mpr hentry, hstarted⟩
  · rintro ⟨original, c, hassigned, hentry, hstarted⟩
    have hmem : ((original, name), (original, c)) ∈
        (ServerName.assignBy nameOf config.keys).zip config.entries :=
      (Entries.mem_zip_iff hgiven hkeys).mpr ⟨hassigned, Table.get?_eq_some_iff.mp hentry, rfl⟩
    exact ⟨_, hmem, congrArg (Option.map fun client => (name, client)) hstarted⟩

theorem nodup_startServers {given : List (String × String)}
    {servers : List (String × ServerConfig)} (hlength : given.length ≤ servers.length)
    (hnames : (given.map (·.2)).Nodup) :
    ((startServers launch timeoutSecs given servers).map (·.1)).Nodup := by
  have hzipped : ((given.zip servers).map (Prod.snd ∘ Prod.fst)).Nodup := by
    rw [← List.map_map, List.map_fst_zip hlength]
    exact hnames
  refine List.pairwise_map.mpr ((List.pairwise_map.mp hzipped).filterMap _ ?_)
  rintro ⟨⟨_, name⟩, ⟨_, c⟩⟩ ⟨⟨_, name'⟩, ⟨_, c'⟩⟩ hne b hb b' hb'
  obtain ⟨_, -, rfl⟩ := Option.map_eq_some_iff.mp hb
  obtain ⟨_, -, rfl⟩ := Option.map_eq_some_iff.mp hb'
  exact hne

/-- The servers that are started have names that differ. -/
theorem nodup_started (nameOf : String → String) (launch : ServerConfig → Except String π)
    (timeoutSecs : Nat) (config : ServerTable) :
    ((startServers launch timeoutSecs (ServerName.assignBy nameOf config.keys)
      config.entries).map (·.1)).Nodup := by
  have hgiven : (ServerName.assignBy nameOf config.keys).map (·.1) = config.entries.map (·.1) :=
    ServerName.map_fst_assignBy nameOf config.keys
  have hlength : (ServerName.assignBy nameOf config.keys).length = config.entries.length := by
    simpa using congrArg List.length hgiven
  exact nodup_startServers (Nat.le_of_eq hlength) (ServerName.nodup_assignBy nameOf config.keys)

/-- **Which servers there are**: each that was started, under the name that it was given. -/
theorem get?_ofConfigBy {nameOf : String → String} {name : String} {client : Client π} :
    (ofConfigBy nameOf launch timeoutSecs config).clients.get? name = some client ↔
      ∃ original c, (original, name) ∈ ServerName.assignBy nameOf config.keys ∧
        config.get? original = some c ∧ startServer launch timeoutSecs name c = some client := by
  rw [ofConfigBy, Table.get?_ofList (nodup_started nameOf launch timeoutSecs config)]
  exact mem_startServers

/-! ## Listing and loading -/

/-- What listing gives, server by server. -/
theorem listServers_eq_some {entries listed : List (String × Client π)}
    {tools : List (String × ToolSpec)} (h : listServers pages entries = some (listed, tools)) :
    listed = entries.map (fun e => (e.1, (e.2.listTools pages).2)) ∧
      tools = entries.flatMap fun e => offered e.1 (e.2.reportedTools pages) := by
  induction entries generalizing listed tools with
  | nil =>
      obtain ⟨rfl, rfl⟩ := Prod.mk.inj (Option.some.inj h)
      exact ⟨rfl, rfl⟩
  | cons e rest ih =>
      unfold listServers at h
      split at h
      · next listing after listedRest toolsRest hlist hrest =>
          obtain ⟨rfl, rfl⟩ := Prod.mk.inj (Option.some.inj h)
          obtain ⟨rfl, rfl⟩ := ih hrest
          refine ⟨by rw [List.map_cons, hlist], ?_⟩
          rw [List.flatMap_cons, Client.reportedTools, hlist]
          cases listing <;> rfl
      · cases h

theorem get?_clients_of_load {m loaded : Manager π} (h : m.load pages = some loaded)
    {name : String} {client : Client π} (hclient : m.clients.get? name = some client) :
    loaded.clients.get? name = some (client.listTools pages).2 := by
  obtain ⟨⟨listed, tools⟩, hlist, rfl⟩ := Option.map_eq_some_iff.mp h
  obtain ⟨rfl, -⟩ := listServers_eq_some hlist
  -- Each client takes the place of the one of its name, as no two have the same.
  let after (e : String × Client π) : String × Client π := (e.1, (e.2.listTools pages).2)
  have hkeys : ((m.clients.entries.map after).reverse.map (·.1)).Nodup := by
    rw [List.map_reverse, List.map_map]
    exact List.nodup_reverse.mpr (Table.nodup_keys m.clients)
  have hmem : (name, (client.listTools pages).2) ∈ (m.clients.entries.map after).reverse :=
    List.mem_reverse.mpr (List.mem_map_of_mem (Table.get?_eq_some_iff.mp hclient))
  have hfind := (Entries.find?_eq_some_iff hkeys).mpr hmem
  exact (Table.get?_foldl_insert _ _ _).trans (by rw [hfind]; rfl)

/-- **What is loaded for a tool**: under its name, the specification of a tool of that name. -/
theorem exists_spec_of_load {m loaded : Manager π} (h : m.load pages = some loaded)
    {name : String} {client : Client π} (hclient : m.clients.get? name = some client)
    {tool : ToolSpec} (htool : tool ∈ client.reportedTools pages) :
    ∃ name' client' tool', m.clients.get? name' = some client' ∧
      tool' ∈ client'.reportedTools pages ∧
      qualified name' tool'.name = qualified name tool.name ∧
      loaded.specs.get? (qualified name tool.name) =
        some { tool' with name := qualified name tool.name } := by
  obtain ⟨⟨listed, tools⟩, hlist, rfl⟩ := Option.map_eq_some_iff.mp h
  obtain ⟨-, rfl⟩ := listServers_eq_some hlist
  let offers := m.clients.entries.flatMap fun e => offered e.1 (e.2.reportedTools pages)
  have hoffer : (qualified name tool.name, { tool with name := qualified name tool.name }) ∈
      offers := List.mem_flatMap.mpr
    ⟨(name, client), Table.get?_eq_some_iff.mp hclient, List.mem_map.mpr ⟨tool, htool, rfl⟩⟩
  -- Of several tools with this name the last one that was listed counts.
  obtain ⟨spec, hfind⟩ := Entries.exists_find?_of_mem (List.mem_reverse.mpr hoffer)
  have hspec : (qualified name tool.name, spec) ∈ offers :=
    List.mem_reverse.mp (Entries.mem_of_find? hfind)
  obtain ⟨⟨name', client'⟩, hentry, hoffered⟩ := List.mem_flatMap.mp hspec
  obtain ⟨tool', htool', heq⟩ := List.mem_map.mp hoffered
  obtain ⟨hname, rfl⟩ := Prod.mk.inj heq
  refine ⟨name', client', tool', Table.get?_eq_some_iff.mpr hentry, htool', hname, ?_⟩
  refine (Table.get?_foldl_insert _ _ _).trans ?_
  rw [hfind, hname]
  rfl

/-! ## Configured servers -/

/-- A server of the configuration was given a name and started, and reports a tool. -/
structure Reports (launch : ServerConfig → Except String π) (timeoutSecs pages : Nat)
    (config : ServerTable) (original name : String) (client : Client π) (tool : ToolSpec) :
    Prop where
  named : (original, name) ∈ ServerName.assign config.keys
  started : ∃ c, config.get? original = some c ∧
    startServer launch timeoutSecs name c = some client
  reported : tool ∈ client.reportedTools pages

namespace Reports

variable {original name original' name' : String} {client client' : Client π}
  {tool tool' : ToolSpec}

theorem get?_clients (h : Reports launch timeoutSecs pages config original name client tool) :
    (ofConfig launch timeoutSecs config).clients.get? name = some client := by
  obtain ⟨c, hc, hstarted⟩ := h.started
  exact get?_ofConfigBy.mpr ⟨original, c, h.named, hc, hstarted⟩

theorem isValid (h : Reports launch timeoutSecs pages config original name client tool) :
    ServerName.isValid name.toList = true := ServerName.isValid_of_mem_assign h.named

/-- Servers have one name each. -/
theorem original_eq_iff (h : Reports launch timeoutSecs pages config original name client tool)
    (h' : Reports launch timeoutSecs pages config original' name' client' tool') :
    original = original' ↔ name = name' := by
  have hkeys : ((ServerName.assign config.keys).map (·.1)).Nodup := by
    rw [ServerName.assign, ServerName.map_fst_assignBy]
    exact config.nodup_keys
  constructor
  · intro heq
    exact congrArg Prod.snd (List.inj_on_of_nodup_map hkeys h.named h'.named heq)
  · intro heq
    exact congrArg Prod.fst
      (List.inj_on_of_nodup_map (ServerName.nodup_assignBy _ config.keys) h.named h'.named heq)

end Reports

/-- A tool use calls this tool of this server. -/
def Calls (m : Manager π) (use : ToolUse) (server tool : String) : Prop :=
  ∃ call, m.resolve use = .ok (.server call) ∧ call.server = server ∧ call.tool = tool

/-- A specification is that of a tool that is reported, under the name by which the model knows
it. -/
def Exposes (launch : ServerConfig → Except String π) (timeoutSecs pages : Nat)
    (config : ServerTable) (spec : ToolSpec) : Prop :=
  ∃ original name client tool,
    Reports launch timeoutSecs pages config original name client tool ∧
      spec = { tool with name := qualified name tool.name }

/-- **The way there and back.** Each tool that a configured server reports is known to the model by
the name of the server, the delimiter and its own name. A tool use of that name, with the arguments
that its specification asks for, calls this tool of this server exactly if the name of the server
does not end with an underscore; and two tools have the same name only if they are the same or
`Confused`, for which a server's name must end with an underscore too. -/
theorem namespaced {loaded : Manager π}
    (h : (ofConfig launch timeoutSecs config).load pages = some loaded) :
    (∀ original name client tool,
      Reports launch timeoutSecs pages config original name client tool →
      loaded.clients.get? name = some (client.listTools pages).2 ∧
      ∃ spec, loaded.specs.get? (qualified name tool.name) = some spec ∧
        spec.name = qualified name tool.name ∧ Exposes launch timeoutSecs pages config spec ∧
        ∀ use : ToolUse, use.name = spec.name → missingArgs spec use.args = [] →
          (loaded.Calls use name tool.name ↔ name.toList.getLast? ≠ some '_')) ∧
    ∀ original name client tool original' name' client' tool',
      Reports launch timeoutSecs pages config original name client tool →
      Reports launch timeoutSecs pages config original' name' client' tool' →
      (qualified name tool.name = qualified name' tool'.name ↔
        (original = original' ∧ tool.name = tool'.name) ∨
          Confused name tool.name name' tool'.name ∨
          Confused name' tool'.name name tool.name) := by
  constructor
  · intro original name client tool hreports
    have hclient := get?_clients_of_load h hreports.get?_clients
    obtain ⟨name', client', tool', hclient', htool', hname, hspec⟩ :=
      exists_spec_of_load h hreports.get?_clients hreports.reported
    obtain ⟨original', c, hnamed, hc, hstarted⟩ := get?_ofConfigBy.mp hclient'
    refine ⟨hclient, _, hspec, rfl,
      ⟨original', name', client', tool', ⟨hnamed, ⟨c, hc, hstarted⟩, htool'⟩, by rw [hname]⟩, ?_⟩
    intro use (huse : use.name = qualified name tool.name) hargs
    -- A call is cut at the first delimiter in its name, and that has to give the two back.
    rw [Calls, resolve_qualified huse, ← cut_qualified_eq_iff hreports.isValid, ← huse]
    constructor
    · rintro ⟨call, hcall, rfl, htool⟩
      rw [cut_of_resolveServerTool hcall, htool]
    · intro hcut
      rw [← huse] at hspec
      exact exists_call_of_cut hcut hclient hspec hargs
  · intro original name client tool original' name' client' tool' hreports hreports'
    rw [hreports.original_eq_iff hreports']
    exact qualified_eq_iff hreports.isValid hreports'.isValid

end Manager

/-! ### Names with and without an underscore at their end -/

/-- A server whose answers are prepared, one for each line that it reads. -/
structure PreparedServer where
  answers : List String

instance : Peer PreparedServer where
  greeting s := (⟨[], false⟩, s)
  send s _ := (.ok ⟨Utf8.ofString (s.answers.headD ""), false⟩, ⟨s.answers.tail⟩)

namespace Manager

/-- A server that reports one tool. -/
def greeter : PreparedServer :=
  ⟨["\x7b\"id\":0,\"result\":\x7b\x7d\x7d\n", "",
    "\x7b\"id\":1,\"result\":\x7b\"tools\":[\x7b\"name\":\"hello\"\x7d]\x7d\x7d\n"]⟩

/-- The servers of these names. -/
def serversOf (names : List String) : ServerTable :=
  .ofList (names.map fun name => (name, ⟨name, [], none, none⟩))

/-- One server alone is called by the name of its tool. -/
theorem greeter_called :
    ∃ loaded client tool,
      (ofConfig (fun _ => .ok greeter) 1 (serversOf ["docs"])).load 1 = some loaded ∧
      Reports (fun _ => .ok greeter) 1 1 (serversOf ["docs"]) "docs" "docs" client tool ∧
      ∃ spec, loaded.specs.get? "docs___hello" = some spec ∧
        ∀ use : ToolUse, use.name = "docs___hello" → missingArgs spec use.args = [] →
          loaded.Calls use "docs" "hello" := by
  have hload : ((ofConfig (fun _ => .ok greeter) 1 (serversOf ["docs"])).load 1).isSome = true := by
    decide +kernel
  have hstart : (startServer (fun _ => .ok greeter) 1 "docs" ⟨"docs", [], none, none⟩).map
      (fun client => (client.reportedTools 1).map (·.name)) = some ["hello"] := by decide +kernel
  obtain ⟨loaded, hloaded⟩ := Option.isSome_iff_exists.mp hload
  obtain ⟨client, hstarted, htools⟩ := Option.map_eq_some_iff.mp hstart
  obtain ⟨tool, htool, hname⟩ : ∃ tool ∈ client.reportedTools 1, tool.name = "hello" :=
    List.mem_map.mp (htools ▸ List.mem_singleton_self "hello")
  have hreports : Reports (fun _ => .ok greeter) 1 1 (serversOf ["docs"]) "docs" "docs" client
      tool := ⟨by decide +kernel, ⟨_, by decide +kernel, hstarted⟩, htool⟩
  obtain ⟨-, spec, hspec, hspecName, -, hcalls⟩ := (namespaced hloaded).1 _ _ _ _ hreports
  have hqualified : qualified "docs" tool.name = "docs___hello" := by rw [hname]; rfl
  rw [hqualified] at hspec hspecName
  refine ⟨loaded, client, tool, hloaded, hreports, spec, hspec, fun use huse hargs => ?_⟩
  exact hname ▸ (hcalls use (huse.trans hspecName.symm) hargs).mpr (by decide)

/-- A server called `docs-!` is given the name `docs_`, and a call of its tool goes to a server
called `docs`. -/
theorem greeter_miscalled :
    ∃ loaded client tool,
      (ofConfig (fun _ => .ok greeter) 1 (serversOf ["docs", "docs-!"])).load 1 = some loaded ∧
      Reports (fun _ => .ok greeter) 1 1 (serversOf ["docs", "docs-!"]) "docs-!" "docs_" client
        tool ∧
      ∃ spec, loaded.specs.get? (qualified "docs_" tool.name) = some spec ∧
        missingArgs spec .null = [] ∧
        loaded.Calls ⟨"1", qualified "docs_" tool.name, .null⟩ "docs" "_hello" ∧
        ¬ loaded.Calls ⟨"1", qualified "docs_" tool.name, .null⟩ "docs_" tool.name := by
  have hload : ((ofConfig (fun _ => .ok greeter) 1 (serversOf ["docs", "docs-!"])).load 1).map
      (fun loaded => ((loaded.specs.get? "docs____hello").map (missingArgs · .null),
        loaded.resolve ⟨"1", "docs____hello", .null⟩)) =
      some (some [], .ok (.server
        ⟨"docs", "docs", "_hello", "docs____hello", ServerCall.callMethod, none⟩)) := by
    decide +kernel
  have hstart : (startServer (fun _ => .ok greeter) 1 "docs_" ⟨"docs-!", [], none, none⟩).map
      (fun client => (client.reportedTools 1).map (·.name)) = some ["hello"] := by decide +kernel
  obtain ⟨loaded, hloaded, hpair⟩ := Option.map_eq_some_iff.mp hload
  obtain ⟨hspec, hresolve⟩ := Prod.mk.inj hpair
  obtain ⟨spec, hspec, hargs⟩ := Option.map_eq_some_iff.mp hspec
  obtain ⟨client, hstarted, htools⟩ := Option.map_eq_some_iff.mp hstart
  obtain ⟨tool, htool, hname⟩ : ∃ tool ∈ client.reportedTools 1, tool.name = "hello" :=
    List.mem_map.mp (htools ▸ List.mem_singleton_self "hello")
  have hqualified : qualified "docs_" tool.name = "docs____hello" := by rw [hname]; rfl
  refine ⟨loaded, client, tool, hloaded,
    ⟨by decide +kernel, ⟨_, by decide +kernel, hstarted⟩, htool⟩, spec, ?_⟩
  rw [hqualified]
  refine ⟨hspec, hargs, ⟨_, hresolve, rfl, rfl⟩, ?_⟩
  rintro ⟨call, hcall, hserver, -⟩
  rw [hresolve] at hcall
  obtain rfl := Tool.server.inj (Except.ok.inj hcall)
  exact absurd hserver (by decide)

end Manager

end ToolAgent
