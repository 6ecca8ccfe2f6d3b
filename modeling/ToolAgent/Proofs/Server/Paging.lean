import ToolAgent.Proofs.Server.Loading
import ToolAgent.Proofs.Server.Pages
import ToolAgent.Proofs.Server.Sending

/-!
# Listing page by page

A server that has more tools to report ends its answer with a cursor, and is asked again with that
cursor. A listing is the tools of all pages, or nothing of any.

* `Shows`, `Spoils` — what an answer is to a listing: a page, or its end.
* `listed_by_pages` — the requests that are sent, what the listing comes to, and that nothing of a
  listing that fails is loaded.
-/

namespace ToolAgent

open Json (Value)

namespace Listing

/-- The answer is a page with these tools. -/
def Shows (answer : Except Error Value) (tools : List ToolSpec) : Prop :=
  ∃ v, answer = .ok v ∧ Reports v tools

/-- The listing fails on this answer: the request came to nothing, or what it lists are not all
tools. -/
inductive Spoils : Except Error Value → Error → Prop
  | unanswered (e : Error) : Spoils (.error e) e
  | malformed {v : Value} (h : ∀ tools, ¬ Reports v tools) (text : String) :
      Spoils (.ok v) (.json text)

theorem Page.ofJson_eq {answer : Value} {tools : List ToolSpec} (h : Reports answer tools) :
    Page.ofJson answer = .ok ⟨tools, cursor? answer⟩ :=
  Page.ofJson_eq_ok.mpr ⟨h, rfl⟩

/-- A page that cannot be read spoils the listing. -/
theorem Page.ofJson_eq_error {answer : Value} (h : ∀ tools, ¬ Reports answer tools) :
    ∃ e, Spoils (.ok answer) e ∧ Page.ofJson answer = .error e := by
  cases hpage : Page.ofJson answer with
  | ok page => exact absurd (Page.ofJson_eq_ok.mp hpage).1 (h _)
  | error e =>
      refine ⟨e, ?_, rfl⟩
      rw [Page.ofJson] at hpage
      split at hpage
      · cases hpage
      · cases hpage
        exact .malformed h _

variable {σ : Type} {ask : σ → Option Value → Except Error Value × σ} {s : σ}
  {cursor : Option String} {front : List Value}

/-- Asks for pages, one after the other. -/
def askPages (ask : σ → Option Value → Except Error Value × σ) (s : σ)
    (cursors : List (Option String)) : List (Except Error Value) × σ :=
  askAll (fun s cursor => ask s (params cursor)) s cursors

/-- A page that is not the last one stands before the others. -/
theorem follow_of_shows_more {v : Value} {tools : List ToolSpec}
    (hask : (ask s (params cursor)).1 = .ok v) (htools : Reports v tools)
    (hmore : (cursor? v).isSome) (pages : Nat) :
    follow ask (pages + 1) s cursor =
      (follow ask pages (ask s (params cursor)).2 (cursor? v)).map
        (Option.map (Except.map (tools ++ ·))) id := by
  obtain ⟨k, hk⟩ := Option.isSome_iff_exists.mp hmore
  rw [follow_succ, askPage, hask, Except.bind, Page.ofJson_eq htools, hk]

theorem follow_of_shows_last {v : Value} {tools : List ToolSpec}
    (hask : (ask s (params cursor)).1 = .ok v) (htools : Reports v tools)
    (hlast : cursor? v = none) (pages : Nat) :
    follow ask (pages + 1) s cursor = (some (.ok tools), (ask s (params cursor)).2) := by
  rw [follow_succ, askPage, hask, Except.bind, Page.ofJson_eq htools, hlast]

/-- An answer that is no page ends the listing. -/
theorem exists_follow_of_not_shows {answer : Except Error Value}
    (hask : (ask s (params cursor)).1 = answer) (h : ∀ tools, ¬ Shows answer tools) :
    ∃ e, Spoils answer e ∧ ∀ pages > 0,
      follow ask pages s cursor = (some (.error e), (askPages ask s [cursor]).2) := by
  have hfollow {e : Error} (hpage : answer.bind Page.ofJson = .error e) : ∀ pages > 0,
      follow ask pages s cursor = (some (.error e), (askPages ask s [cursor]).2) := by
    intro pages hpages
    obtain ⟨pages, rfl⟩ : ∃ rest, pages = rest + 1 := ⟨pages - 1, by omega⟩
    rw [follow_succ, askPage, hask, hpage]
    rfl
  cases answer with
  | error e => exact ⟨e, .unanswered e, hfollow rfl⟩
  | ok v =>
      obtain ⟨e, hspoils, hpage⟩ := Page.ofJson_eq_error fun tools hreports =>
        h tools ⟨v, rfl, hreports⟩
      exact ⟨e, hspoils, hfollow hpage⟩

/-- **A listing of pages**: each is asked for with the cursor of the one before it. -/
theorem follow_of_shows {last : Value} {tools : List (List ToolSpec)}
    (hanswers : (askPages ask s (cursor :: front.map cursor?)).1 = front.map .ok ++ [.ok last])
    (hmore : ∀ v ∈ front, (cursor? v).isSome) (hlast : cursor? last = none)
    (htools : List.Forall₂ Reports (front ++ [last]) tools)
    {pages : Nat} (hpages : front.length < pages) :
    follow ask pages s cursor =
      (some (.ok tools.flatten), (askPages ask s (cursor :: front.map cursor?)).2) := by
  obtain ⟨pages, rfl⟩ : ∃ rest, pages = rest + 1 := ⟨pages - 1, by omega⟩
  induction front generalizing s cursor tools pages with
  | nil =>
      cases htools with
      | cons hpage hrest =>
          cases hrest
          rw [follow_of_shows_last (List.cons.inj hanswers).1 hpage hlast, List.flatten_singleton]
          rfl
  | cons v front ih =>
      obtain ⟨hsome, hmore⟩ := List.forall_mem_cons.mp hmore
      obtain ⟨hask, hanswers⟩ := List.cons.inj hanswers
      obtain ⟨pages, rfl⟩ : ∃ rest, pages = rest + 1 :=
        ⟨pages - 1, by rw [List.length_cons] at hpages; omega⟩
      cases htools with
      | cons hpage hrest =>
          have hlater := ih hanswers hmore hrest pages (Nat.lt_of_succ_lt_succ hpages)
          rw [follow_of_shows_more hask hpage hsome, hlater]
          rfl

/-- **A listing with an answer that is no page** ends there. -/
theorem exists_follow_of_spoilt {last : Except Error Value}
    (hanswers : (askPages ask s (cursor :: front.map cursor?)).1 = front.map .ok ++ [last])
    (hmore : ∀ v ∈ front, (cursor? v).isSome)
    (hspoilt : ∃ answer ∈ front.map .ok ++ [last], ∀ tools, ¬ Shows answer tools) :
    ∃ i e bad, (front.map .ok ++ [last])[i]? = some bad ∧ Spoils bad e ∧ ∀ pages > i,
      follow ask pages s cursor =
        (some (.error e), (askPages ask s ((cursor :: front.map cursor?).take (i + 1))).2) := by
  induction front generalizing s cursor with
  | nil =>
      obtain ⟨answer, hanswer, hnot⟩ := hspoilt
      obtain rfl := List.mem_singleton.mp hanswer
      obtain ⟨e, hspoils, hfollow⟩ :=
        exists_follow_of_not_shows (List.cons.inj hanswers).1 hnot
      exact ⟨0, e, _, rfl, hspoils, hfollow⟩
  | cons v front ih =>
      obtain ⟨hsome, hmore⟩ := List.forall_mem_cons.mp hmore
      obtain ⟨hask, hanswers⟩ := List.cons.inj hanswers
      -- The listing goes on behind a page, and it ends at what is none.
      by_cases hpage : ∃ tools, Reports v tools
      · obtain ⟨tools, hpage⟩ := hpage
        have hrest : ∃ answer ∈ front.map .ok ++ [last], ∀ tools, ¬ Shows answer tools := by
          obtain ⟨answer, hanswer, hnot⟩ := hspoilt
          rcases List.mem_cons.mp hanswer with rfl | hanswer
          · exact absurd ⟨v, rfl, hpage⟩ (hnot tools)
          · exact ⟨answer, hanswer, hnot⟩
        obtain ⟨i, e, bad, hbad, hspoils, hfollow⟩ := ih hanswers hmore hrest
        refine ⟨i + 1, e, bad, hbad, hspoils, fun pages hpages => ?_⟩
        obtain ⟨pages, rfl⟩ : ∃ rest, pages = rest + 1 := ⟨pages - 1, by omega⟩
        rw [follow_of_shows_more hask hpage hsome, hfollow pages (by omega)]
        rfl
      · have hnot : ∀ tools, ¬ Shows (.ok v) tools := by
          rintro tools ⟨w, hw, hreports⟩
          obtain rfl := Except.ok.inj hw
          exact hpage ⟨tools, hreports⟩
        obtain ⟨e, hspoils, hfollow⟩ := exists_follow_of_not_shows hask hnot
        exact ⟨0, e, _, rfl, hspoils, hfollow⟩

end Listing

variable {π : Type} [Peer π]

/-! ## Failing as a whole -/

/-- A server whose listing fails has nothing in what is loaded. -/
theorem Manager.exists_load_without {m : Manager π} {name : String} {client : Client π} {e : Error}
    (hclient : m.clients.get? name = some client) (hfails : client.Lists (.error e))
    {listings : List (String × Except Error (List ToolSpec))}
    (h : Ending listings m.clients.entries) :
    ∃ loaded, (∃ pages, ∀ more ≥ pages, m.load more = some loaded) ∧
      ∀ spec ∈ loaded.toolSpecs, spec ∈ BuiltIn.specs ∨ ∃ other tools tool, other ≠ name ∧
        (other, .ok tools) ∈ listings ∧ tool ∈ tools ∧
        spec = { tool with name := other ++ "___" ++ tool.name } := by
  obtain ⟨loaded, pages, hload, hspecs⟩ := exists_load h
  refine ⟨loaded, ⟨pages, hload⟩, fun spec hspec => ?_⟩
  rw [toolSpecs, hspecs] at hspec
  refine ((merged_specsOf listings).only spec hspec).imp_right ?_
  rintro ⟨other, tools, tool, hlisting, htool, rfl⟩
  refine ⟨other, tools, tool, ?_, hlisting, htool, rfl⟩
  rintro rfl
  cases hfails.unique (h.lists hclient hlisting)

namespace Client

/-! ## Requests for pages -/

/-- The request for a page. -/
def pageRequest (cursor : Option String) : String × Option Value :=
  (Listing.method, Listing.params cursor)

/-- Asks for pages, one after the other. -/
def askPages (client : Client π) (cursors : List (Option String)) :
    List (Except Error Value) × Client π :=
  client.requestAll (cursors.map pageRequest)

theorem askPages_eq (client : Client π) (cursors : List (Option String)) :
    client.askPages cursors =
      Listing.askPages (fun c params => c.request Listing.method params) client cursors :=
  askAll_map _ _ _ _

/-- **A listing page by page.** Suppose that a server answers the request for tools and those with
the cursors of its answers in this way, each answer but the last carrying a cursor.

If the last answer carries none and all of them list tools, the listing is the tools of all pages in
order. Otherwise an answer that does not list tools ends the listing with its failure, and nothing
that this server reported is loaded, whatever the others report. Either way the requests that were
sent are those for the pages up to the last one that counts, one for each. -/
theorem listed_by_pages {client : Client π} {front : List Value} {last : Except Error Value}
    (hmore : ∀ v ∈ front, (Listing.cursor? v).isSome)
    (hanswers : (client.askPages (none :: front.map Listing.cursor?)).1 =
      front.map .ok ++ [last]) :
    (∀ v tools, last = .ok v → Listing.cursor? v = none →
      List.Forall₂ Listing.Reports (front ++ [v]) tools → ∀ pages > front.length,
        client.listTools pages = (some (.ok tools.flatten),
          (client.askPages (none :: front.map Listing.cursor?)).2)) ∧
    ((∃ answer ∈ front.map .ok ++ [last], ∀ tools, ¬ Listing.Shows answer tools) →
      ∃ i e bad, (front.map .ok ++ [last])[i]? = some bad ∧ Listing.Spoils bad e ∧
        (∀ pages > i, client.listTools pages = (some (.error e),
          (client.askPages ((none :: front.map Listing.cursor?).take (i + 1))).2)) ∧
        ∀ (m : Manager π) name listings, m.clients.get? name = some client →
          Manager.Ending listings m.clients.entries →
          ∃ loaded, (∃ pages, ∀ more ≥ pages, m.load more = some loaded) ∧
            ∀ spec ∈ loaded.toolSpecs, spec ∈ BuiltIn.specs ∨ ∃ other tools tool, other ≠ name ∧
              (other, .ok tools) ∈ listings ∧ tool ∈ tools ∧
              spec = { tool with name := other ++ "___" ++ tool.name }) ∧
    ∀ cursors, (client.askPages cursors).2.peer =
      Peer.told client.peer ((cursors.zipIdx client.router.nextId).map fun (cursor, id) =>
        Rpc.Request.line ⟨some id, "tools/list", Listing.params cursor⟩) := by
  rw [askPages_eq] at hanswers
  refine ⟨?_, fun hspoilt => ?_, fun cursors => ?_⟩
  · rintro v tools rfl hlast htools pages hpages
    rw [askPages_eq]
    exact Listing.follow_of_shows hanswers hmore hlast htools hpages
  · obtain ⟨i, e, bad, hbad, hspoils, hfollow⟩ :=
      Listing.exists_follow_of_spoilt hanswers hmore hspoilt
    refine ⟨i, e, bad, hbad, hspoils, fun pages hpages => ?_, fun m name listings hclient h => ?_⟩
    · rw [askPages_eq]
      exact hfollow pages hpages
    · have hfails : client.Lists (.error e) :=
        ⟨i + 1, congrArg Prod.fst (hfollow (i + 1) (Nat.lt_succ_self i))⟩
      exact Manager.exists_load_without hclient hfails h
  · rw [askPages, peer_requestAll, lines, List.zipIdx_map, List.map_map]
    rfl

/-- A server that reports two tools on two pages. -/
def twoPages : Client PreparedServer :=
  .ofPeer "docs" 1000
    ⟨["\x7b\"id\":0,\"result\":\x7b\"nextCursor\":\"b\"," ++
        "\"tools\":[\x7b\"name\":\"hello\"\x7d]\x7d\x7d\n",
      "\x7b\"id\":1,\"result\":\x7b\"tools\":[[\"bye\",\"Ends it.\"]]\x7d\x7d\n"]⟩

/-- What its first answer is. -/
def firstPage : Value :=
  .object [("nextCursor", .string "b"),
    ("tools", .list [.object [("name", .string "hello")]])]

/-- What its second answer is. -/
def secondPage : Value := .object [("tools", .list [.list [.string "bye", .string "Ends it."]])]

/-- Both tools are listed, with two requests. -/
theorem listed_twoPages :
    (∀ v ∈ [firstPage], (Listing.cursor? v).isSome) ∧
    (twoPages.askPages [none, some "b"]).1 = [.ok firstPage, .ok secondPage] ∧
    twoPages.listTools 2 =
      (some (.ok [⟨"hello", "", .object [("type", .string "object")]⟩,
        ⟨"bye", "Ends it.", .object [("type", .string "object")]⟩]),
        (twoPages.askPages [none, some "b"]).2) := by
  have hmore : ∀ v ∈ [firstPage], (Listing.cursor? v).isSome := by decide
  have hanswers : (twoPages.askPages [none, some "b"]).1 = [.ok firstPage, .ok secondPage] := by
    decide +kernel
  have hreports : List.Forall₂ Listing.Reports [firstPage, secondPage]
      [[⟨"hello", "", .object [("type", .string "object")]⟩],
        [⟨"bye", "Ends it.", .object [("type", .string "object")]⟩]] :=
    .cons ⟨_, rfl, .cons (.object rfl .absent .absent) .nil⟩
      (.cons ⟨_, rfl, .cons (.list rfl (.given (by simp) rfl) .absent rfl) .nil⟩ .nil)
  have hlisted := (@listed_by_pages _ _ twoPages [firstPage] _ hmore hanswers).1 secondPage _ rfl
    rfl hreports 2 (by decide)
  exact ⟨hmore, hanswers, hlisted⟩

end Client

end ToolAgent
