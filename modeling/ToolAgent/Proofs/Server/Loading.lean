import ToolAgent.Proofs.Server.Namespace
import ToolAgent.Proofs.Server.Resolution

/-!
# What is loaded

Loading merges what the servers report into the specifications of the program's own tools. The names
of servers' tools hold the delimiter and those of the program's own tools do not, so whatever the
servers report, under whatever names they are registered, the program's own tools stay as they are.

* `Client.Lists` — what the listing of a server ends with, however many pages that takes.
* `Merged` — what specifications are to be, given how the listings ended.
* `loaded_merged` — loading gives such specifications, in whatever order the listings are taken, and
  a listing that fails takes nothing from the others.
-/

namespace ToolAgent

open Json (Value)

/-! ## Listings that end -/

namespace Listing

variable {σ : Type} {ask : σ → Option Value → Except Error Value × σ} {s : σ}
  {cursor : Option String} {listing : Except Error (List ToolSpec)}

/-- Asks for a page and reads it. -/
def askPage (ask : σ → Option Value → Except Error Value × σ) (s : σ) (cursor : Option String) :
    Except Error Page × σ :=
  ((ask s (params cursor)).1.bind Page.ofJson, (ask s (params cursor)).2)

/-- **One page of a listing**: it fails, it is the last one, or the others follow. -/
theorem follow_succ (ask : σ → Option Value → Except Error Value × σ) (pages : Nat) (s : σ)
    (cursor : Option String) :
    follow ask (pages + 1) s cursor =
      match askPage ask s cursor with
      | (.error e, s) => (some (.error e), s)
      | (.ok page, s) =>
        match page.next with
        | none => (some (.ok page.tools), s)
        | some k =>
          (follow ask pages s (some k)).map (Option.map (Except.map (page.tools ++ ·))) id := by
  rw [follow, askPage]
  obtain ⟨answer, after⟩ := ask s (params cursor)
  cases answer with
  | error e => rfl
  | ok v =>
      simp only [Except.bind]
      cases Page.ofJson v with
      | error e => rfl
      | ok page =>
          dsimp only
          cases page.next with
          | none => rfl
          | some k =>
              dsimp only
              obtain ⟨_ | _ | _, last⟩ := follow ask pages after (some k) <;> rfl

/-- A listing that has ended does not change if it may have more pages. -/
theorem follow_mono {pages more : Nat} (hle : pages ≤ more)
    (h : (follow ask pages s cursor).1 = some listing) :
    follow ask more s cursor = follow ask pages s cursor := by
  induction pages generalizing more s cursor listing with
  | zero => cases h
  | succ pages ih =>
      obtain ⟨more, rfl⟩ : ∃ rest, more = rest + 1 := ⟨more - 1, by omega⟩
      rw [follow_succ] at h
      rw [follow_succ, follow_succ]
      split
      · rfl
      · next page after hpage =>
          rw [hpage] at h
          dsimp only at h
          split
          · rfl
          · next k hnext =>
              rw [hnext] at h
              -- If the whole listing has ended, so has the rest of it.
              obtain ⟨later, hlater, -⟩ := Option.map_eq_some_iff.mp h
              rw [ih (by omega) hlater]

/-- Listing keeps what each of its requests keeps. -/
theorem follow_keeps {P : σ → Prop} (hask : ∀ s params, P s → P (ask s params).2) (h : P s)
    (pages : Nat) (cursor : Option String) : P (follow ask pages s cursor).2 := by
  induction pages generalizing s cursor with
  | zero => exact h
  | succ pages ih =>
      have hpage : P (askPage ask s cursor).2 := hask s _ h
      rw [follow_succ]
      split
      · next hfailed => rwa [hfailed] at hpage
      · next page after hread =>
          rw [hread] at hpage
          split
          · exact hpage
          · exact ih hpage _

end Listing

variable {π : Type} [Peer π]

namespace Client

variable {client : Client π} {listing listing' : Except Error (List ToolSpec)}

/-- The listing of a server's tools ends, with these tools or with a failure. -/
def Lists (client : Client π) (listing : Except Error (List ToolSpec)) : Prop :=
  ∃ pages, (client.listTools pages).1 = some listing

theorem listTools_mono {pages more : Nat} (hle : pages ≤ more)
    (h : (client.listTools pages).1 = some listing) :
    client.listTools more = client.listTools pages :=
  Listing.follow_mono hle h

/-- A listing ends in one way. -/
theorem Lists.unique (h : client.Lists listing) (h' : client.Lists listing') :
    listing = listing' := by
  obtain ⟨pages, hpages⟩ := h
  obtain ⟨pages', hpages'⟩ := h'
  have hmore := listTools_mono (Nat.le_max_left pages pages') hpages
  have hmore' := listTools_mono (Nat.le_max_right pages pages') hpages'
  rw [← hmore, hmore', hpages'] at hpages
  exact (Option.some.inj hpages).symm

end Client

namespace Manager

variable {listings : List (String × Except Error (List ToolSpec))}

/-- These are how the listings of the servers end, each under the name of its server. -/
def Ending (listings : List (String × Except Error (List ToolSpec)))
    (servers : List (String × Client π)) : Prop :=
  List.Forall₂ (fun l e => l.1 = e.1 ∧ e.2.Lists l.2) listings servers

/-- What listings that have ended so add. -/
def contributions (listings : List (String × Except Error (List ToolSpec))) :
    List (String × ToolSpec) :=
  listings.flatMap fun l => contribution l.1 l.2

/-- The specifications when listings have ended so. -/
def specsOf (listings : List (String × Except Error (List ToolSpec))) : Table ToolSpec :=
  (contributions listings).foldl (fun t e => t.insert e.1 e.2) builtInSpecs

/-- If all listings end, then all servers are listed, once enough pages are allowed. -/
theorem exists_listServers {entries : List (String × Client π)} (h : Ending listings entries) :
    ∃ listed pages, ∀ more ≥ pages,
      listServers more entries = some (listed, contributions listings) := by
  induction h with
  | nil => exact ⟨[], 0, fun _ _ => rfl⟩
  | @cons l e listings rest hfirst _ ih =>
      obtain ⟨hname, pages, hpages⟩ := hfirst
      obtain ⟨listed, enough, hrest⟩ := ih
      refine ⟨(e.1, (e.2.listTools pages).2) :: listed, max pages enough, fun more hmore => ?_⟩
      have hclient : e.2.listTools more = (some l.2, (e.2.listTools pages).2) := by
        rw [Client.listTools_mono (by omega) hpages, ← hpages]
      have hadded : contributions (l :: listings) =
          contribution e.1 l.2 ++ contributions listings := by
        rw [← hname]
        rfl
      rw [listServers, hclient, hrest more (by omega), hadded]

/-- **Loading ends if all listings do**, with the specifications of these listings. -/
theorem exists_load {m : Manager π} (h : Ending listings m.clients.entries) :
    ∃ loaded pages, (∀ more ≥ pages, m.load more = some loaded) ∧
      loaded.specs = specsOf listings := by
  obtain ⟨listed, pages, hlisted⟩ := exists_listServers h
  exact ⟨_, pages, fun more hmore => by rw [load, hlisted more hmore]; rfl, rfl⟩

/-- Each listing is how the client of its name ends. -/
theorem Ending.lists {m : Manager π} (h : Ending listings m.clients.entries) {name : String}
    {client : Client π} (hclient : m.clients.get? name = some client)
    {listing : Except Error (List ToolSpec)} (hmem : (name, listing) ∈ listings) :
    client.Lists listing := by
  obtain ⟨i, hi, hget⟩ := List.getElem_of_mem hmem
  have hi' : i < m.clients.entries.length := List.Forall₂.length_eq h ▸ hi
  obtain ⟨hname, hlists⟩ := List.Forall₂.get h hi hi'
  simp only [List.get_eq_getElem, hget] at hname hlists
  have hentry : (name, m.clients.entries[i].2) ∈ m.clients.entries :=
    hname ▸ List.getElem_mem hi'
  obtain rfl := Option.some.inj (hclient.symm.trans (Table.get?_eq_some_iff.mpr hentry))
  exact hlists

/-! ## Merging -/

/-- The name of a server's tool is no name of the program's own tools. -/
theorem qualified_ne_builtIn {server tool : String} {spec : ToolSpec} (h : spec ∈ BuiltIn.specs) :
    qualified server tool ≠ spec.name := by
  intro heq
  have hpart : ServerName.delimiter.toList <:+: spec.name.toList := by
    rw [← heq, qualified, String.toList_append, String.toList_append]
    exact List.infix_append _ _ _
  have hnames : ∀ name ∈ BuiltIn.specs.map (·.name),
      ¬ ServerName.delimiter.toList <:+: name.toList := by decide
  exact hnames _ (List.mem_map_of_mem h) hpart

theorem get?_builtInSpecs {name : String} {spec : ToolSpec} :
    builtInSpecs.get? name = some spec ↔ spec ∈ BuiltIn.specs ∧ name = spec.name := by
  have hkeys : ((BuiltIn.specs.map fun s => (s.name, s)).map (·.1)).Nodup := by decide
  rw [builtInSpecs, Table.get?_ofList hkeys]
  simp only [List.mem_map, Prod.mk.injEq]
  constructor
  · rintro ⟨s, hs, rfl, rfl⟩
    exact ⟨hs, rfl⟩
  · rintro ⟨hs, rfl⟩
    exact ⟨spec, hs, rfl, rfl⟩

/-- What is added is what was reported, under its name. -/
theorem mem_contributions {e : String × ToolSpec} : e ∈ contributions listings ↔
    ∃ server tools tool, (server, .ok tools) ∈ listings ∧ tool ∈ tools ∧
      e = (qualified server tool.name, { tool with name := qualified server tool.name }) := by
  rw [contributions, List.mem_flatMap]
  constructor
  · rintro ⟨⟨server, listing⟩, hlisting, he⟩
    cases listing with
    | error e => cases he
    | ok tools =>
        obtain ⟨tool, htool, rfl⟩ := List.mem_map.mp he
        exact ⟨server, tools, tool, hlisting, htool, rfl⟩
  · rintro ⟨server, tools, tool, hlisting, htool, rfl⟩
    exact ⟨_, hlisting, List.mem_map.mpr ⟨tool, htool, rfl⟩⟩

/-- What is added stands before the program's own tools, of which it can be none. -/
theorem get?_specsOf (listings : List (String × Except Error (List ToolSpec))) (name : String) :
    (specsOf listings).get? name =
      (Entries.find? name (contributions listings).reverse).or (builtInSpecs.get? name) :=
  Table.get?_foldl_insert _ _ _

/-- What the specifications are to be when listings ended so: in the order of their names, the
program's own as they are, one under the name of each tool that was reported, and nothing else. -/
structure Merged (listings : List (String × Except Error (List ToolSpec)))
    (specs : List ToolSpec) : Prop where
  increasing : (specs.map (·.name)).Pairwise (· < ·)
  builtIn : ∀ spec ∈ BuiltIn.specs, spec ∈ specs
  each : ∀ server tools tool, (server, .ok tools) ∈ listings → tool ∈ tools →
    ∃ spec ∈ specs, spec.name = server ++ "___" ++ tool.name
  only : ∀ spec ∈ specs, spec ∈ BuiltIn.specs ∨
    ∃ server tools tool, (server, .ok tools) ∈ listings ∧ tool ∈ tools ∧
      spec = { tool with name := server ++ "___" ++ tool.name }

/-- What there is has its name, and is one of the program's own or was added. -/
theorem of_mem_specsOf {name : String} {spec : ToolSpec}
    (h : (name, spec) ∈ (specsOf listings).entries) :
    spec.name = name ∧ (spec ∈ BuiltIn.specs ∨ (name, spec) ∈ contributions listings) := by
  have hget := Table.get?_eq_some_iff.mpr h
  rw [get?_specsOf, Option.or_eq_some_iff] at hget
  rcases hget with hfind | ⟨-, hbuiltIn⟩
  · have hadded := List.mem_reverse.mp (Entries.mem_of_find? hfind)
    obtain ⟨_, _, _, -, -, heq⟩ := mem_contributions.mp hadded
    obtain ⟨hname, hspec⟩ := Prod.mk.inj heq
    exact ⟨by rw [hname, hspec], .inr hadded⟩
  · obtain ⟨hspec, hname⟩ := get?_builtInSpecs.mp hbuiltIn
    exact ⟨hname.symm, .inl hspec⟩

/-- What is added stands under its name, unless something of the same name was added later. -/
theorem exists_of_mem_contributions {name : String} {spec : ToolSpec}
    (h : (name, spec) ∈ contributions listings) :
    ∃ found, (name, found) ∈ (specsOf listings).entries := by
  obtain ⟨found, hfind⟩ := Entries.exists_find?_of_mem (List.mem_reverse.mpr h)
  refine ⟨found, Table.get?_eq_some_iff.mp ?_⟩
  rw [get?_specsOf, hfind]
  rfl

/-- What is added leaves the program's own tools alone. -/
theorem mem_specsOf_of_builtIn {spec : ToolSpec} (h : spec ∈ BuiltIn.specs) :
    (spec.name, spec) ∈ (specsOf listings).entries := by
  have hnone : Entries.find? spec.name (contributions listings).reverse = none := by
    refine Option.eq_none_iff_forall_ne_some.mpr fun found hfind => ?_
    have hadded := List.mem_reverse.mp (Entries.mem_of_find? hfind)
    obtain ⟨_, _, _, -, -, heq⟩ := mem_contributions.mp hadded
    exact qualified_ne_builtIn h (congrArg Prod.fst heq).symm
  refine Table.get?_eq_some_iff.mp ?_
  rw [get?_specsOf, hnone, Option.none_or]
  exact get?_builtInSpecs.mpr ⟨h, rfl⟩

theorem merged_specsOf (listings : List (String × Except Error (List ToolSpec))) :
    Merged listings ((specsOf listings).entries.map (·.2)) := by
  refine ⟨?_, fun spec hspec => ?_, fun server tools tool hlisting htool => ?_,
    fun spec hspec => ?_⟩
  · have hnames : (specsOf listings).entries.map (fun e => e.2.name) =
        (specsOf listings).entries.map (·.1) :=
      List.map_congr_left fun _ he => (of_mem_specsOf he).1
    rw [List.map_map]
    exact hnames ▸ List.pairwise_map.mpr (specsOf listings).sorted
  · exact List.mem_map.mpr ⟨_, mem_specsOf_of_builtIn hspec, rfl⟩
  · have hadded := mem_contributions.mpr ⟨server, tools, tool, hlisting, htool, rfl⟩
    obtain ⟨found, hfound⟩ := exists_of_mem_contributions hadded
    exact ⟨found, List.mem_map.mpr ⟨_, hfound, rfl⟩, (of_mem_specsOf hfound).1⟩
  · obtain ⟨⟨name, _⟩, hmem, rfl⟩ := List.mem_map.mp hspec
    refine (of_mem_specsOf hmem).2.imp_right fun hadded => ?_
    obtain ⟨server, tools, tool, hlisting, htool, heq⟩ := mem_contributions.mp hadded
    exact ⟨server, tools, tool, hlisting, htool, (Prod.mk.inj heq).2⟩

/-- In which order listings are taken makes no difference to this. -/
theorem Merged.congr {order : List (String × Except Error (List ToolSpec))}
    {specs : List ToolSpec} (h : Merged order specs) (hmem : ∀ l, l ∈ order ↔ l ∈ listings) :
    Merged listings specs := by
  refine ⟨h.increasing, h.builtIn, fun server tools tool hlisting => ?_, fun spec hspec => ?_⟩
  · exact h.each server tools tool ((hmem _).mpr hlisting)
  · refine (h.only spec hspec).imp_right ?_
    rintro ⟨server, tools, tool, hlisting, hrest⟩
    exact ⟨server, tools, tool, (hmem _).mp hlisting, hrest⟩

/-- A server whose listing fails makes no difference to what is loaded. -/
theorem exists_ending_insert {m : Manager π} (h : Ending listings m.clients.entries)
    {name : String} {client : Client π} (hnew : name ∉ m.clients.keys) {e : Error}
    (hfails : client.Lists (.error e)) :
    ∃ more, Ending more (m.clients.insert name client).entries ∧
      contributions more = contributions listings := by
  obtain ⟨front, rest, hentries, hput⟩ := Entries.exists_put_eq_append hnew client
  rw [Ending, hentries] at h
  have hfront := List.forall₂_take_append _ _ _ h
  have hrest := List.forall₂_drop_append _ _ _ h
  refine ⟨listings.take front.length ++ (name, .error e) :: listings.drop front.length, ?_, ?_⟩
  · show Ending _ (Entries.put name client m.clients.entries)
    rw [hput]
    exact List.rel_append hfront (.cons ⟨rfl, hfails⟩ hrest)
  · conv_rhs => rw [← List.take_append_drop front.length listings]
    simp only [contributions, List.flatMap_append, List.flatMap_cons]
    rfl

omit [Peer π] in
/-- A tool use with the name of one of the program's own tools is not resolved to a server's. -/
theorem resolve_builtIn_ne (m : Manager π) {use : ToolUse}
    (h : use.name ∈ ["fs_read", "fs_write", "execute_bash"]) (call : ServerCall) :
    m.resolve use ≠ .ok (.server call) := by
  have hown : ∀ {α : Type} (make : α → Tool) (read : Except Json.Fault α),
      (∀ a, make a ≠ .server call) → builtIn use make read ≠ .ok (.server call) := by
    intro α make read hmake heq
    rcases builtIn_cases use make read with ⟨_, hfail⟩ | ⟨a, hok⟩
    · rw [hfail] at heq
      cases heq
    · rw [hok] at heq
      exact hmake a (Except.ok.inj heq)
  unfold resolve
  split
  · exact hown .read _ (by simp)
  · split
    · exact hown .write _ (by simp)
    · split
      · exact hown .command _ (by simp)
      · simp_all

/-- **The program's own tools cannot be shadowed, and listings are merged.** However many servers
there are, under whatever names, and however their listings end: loading ends, and what is loaded is
`Merged`, in whatever order the listings are taken. A server whose listing fails leaves all as it
is, and no tool use with the name of one of the program's own tools is resolved to a server's. -/
theorem loaded_merged {m : Manager π} (h : Ending listings m.clients.entries) :
    ∃ loaded, (∃ pages, ∀ more ≥ pages, m.load more = some loaded) ∧
      Merged listings loaded.toolSpecs ∧
      (∀ order : List (String × Except Error (List ToolSpec)), order.Perm listings →
        Merged listings ((specsOf order).entries.map (·.2))) ∧
      (∀ name client e, name ∉ m.clients.keys → client.Lists (.error e) →
        ∃ loaded' pages, loaded'.toolSpecs = loaded.toolSpecs ∧ ∀ more ≥ pages,
          ({ m with clients := m.clients.insert name client } : Manager π).load more =
            some loaded') ∧
      ∀ use : ToolUse, use.name ∈ ["fs_read", "fs_write", "execute_bash"] →
        ∀ call, loaded.resolve use ≠ .ok (.server call) := by
  obtain ⟨loaded, pages, hload, hspecs⟩ := exists_load h
  have htoolSpecs : loaded.toolSpecs = (specsOf listings).entries.map (·.2) := by
    rw [toolSpecs, hspecs]
  refine ⟨loaded, ⟨pages, hload⟩, ?_, fun order horder => ?_, fun name client e hnew hfails => ?_,
    fun use huse => loaded.resolve_builtIn_ne huse⟩
  · rw [htoolSpecs]
    exact merged_specsOf listings
  · exact (merged_specsOf order).congr fun _ => horder.mem_iff
  · obtain ⟨more, hmore, hsame⟩ := exists_ending_insert h hnew hfails
    obtain ⟨loaded', pages', hload', hspecs'⟩ :=
      exists_load (m := { m with clients := m.clients.insert name client }) hmore
    refine ⟨loaded', pages', ?_, hload'⟩
    rw [htoolSpecs, toolSpecs, hspecs', specsOf, hsame, specsOf]

/-- A server that reports one tool, and one that never answers. -/
def shelf : Manager PreparedServer :=
  ⟨.ofList [("docs", .ofPeer "docs" 1000
      ⟨["\x7b\"id\":0,\"result\":\x7b\"tools\":[\x7b\"name\":\"hello\"\x7d]\x7d\x7d\n"]⟩),
    ("lost", .ofPeer "lost" 1000 ⟨[]⟩)], .empty⟩

/-- How the two listings end. -/
def shelfListings : List (String × Except Error (List ToolSpec)) :=
  [("docs", .ok [⟨"hello", "", .object [("type", .string "object")]⟩]),
    ("lost", .error (.server "lost: tools/list timed out after 1s"))]

/-- The tool of the one is there although the listing of the other fails. -/
theorem merged_shelf : Ending shelfListings shelf.clients.entries ∧
    ∃ loaded, (∃ pages, ∀ more ≥ pages, shelf.load more = some loaded) ∧
      ∃ spec ∈ loaded.toolSpecs, spec.name = "docs___hello" := by
  have hending : Ending shelfListings shelf.clients.entries :=
    .cons ⟨rfl, 1, by decide +kernel⟩ (.cons ⟨rfl, 1, by decide +kernel⟩ .nil)
  obtain ⟨loaded, hload, hmerged, -⟩ := loaded_merged hending
  exact ⟨hending, loaded, hload,
    hmerged.each "docs" _ _ List.mem_cons_self List.mem_cons_self⟩

end Manager

end ToolAgent
