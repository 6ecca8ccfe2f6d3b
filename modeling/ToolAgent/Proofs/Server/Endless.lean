import Mathlib.Logic.Function.Iterate
import ToolAgent.Proofs.Server.Paging
import ToolAgent.Proofs.Server.Replying
import ToolAgent.Proofs.Text.Lines
import ToolAgent.Proofs.Text.Utf8
import ToolAgent.Session.Basic

/-!
# Listings that do not end

A listing goes on for as long as each answer is a page with a cursor. Nothing else ends it: neither
a cursor that was there before, nor the time that single requests may take. And as a session starts
with the listings of all servers, it does not start before all of them have ended.

* `LeadsOn` — the answers after which a listing goes on.
* `follow_eq_none_iff`, `exists_follow_of_end` — a listing ends with the first answer that does not
  lead on, and nowhere else.
* `Session.starts_iff` — when a listing ends, when the tools of all servers are loaded, and when a
  session starts.
* `Session.not_started` — a server that answers with the same cursor again and again.
-/

namespace ToolAgent

open Json (Value)

/-! ## Answers that lead on -/

namespace Listing

/-- A listing goes on after this answer: it is a page with a cursor. -/
def LeadsOn (answer : Except Error Value) : Prop :=
  ∃ v tools, answer = .ok v ∧ Reports v tools ∧ (cursor? v).isSome

section Follow

variable {σ : Type} {ask : σ → Option Value → Except Error Value × σ} {p : σ × Option String}

/-- The answer to the request for a page. -/
def answerTo (ask : σ → Option Value → Except Error Value × σ) (p : σ × Option String) :
    Except Error Value :=
  (ask p.1 (params p.2)).1

/-- What is left after the request for a page, and the cursor for the next one. -/
def turnPage (ask : σ → Option Value → Except Error Value × σ) (p : σ × Option String) :
    σ × Option String :=
  ((ask p.1 (params p.2)).2, (answerTo ask p).toOption.bind cursor?)

/-- **An answer that leads on** is one page of the listing, and the others follow. -/
theorem exists_follow_of_leadsOn (h : LeadsOn (answerTo ask p)) :
    ∃ tools, ∀ pages, follow ask (pages + 1) p.1 p.2 =
      (follow ask pages (turnPage ask p).1 (turnPage ask p).2).map
        (Option.map (Except.map (tools ++ ·))) id := by
  obtain ⟨v, tools, hanswer, hreports, hcursor⟩ := h
  have hnext : (turnPage ask p).2 = cursor? v := by
    rw [turnPage, hanswer]
    rfl
  exact ⟨tools, fun pages => by
    rw [hnext]
    exact follow_of_shows_more hanswer hreports hcursor pages⟩

/-- **An answer that does not lead on** ends the listing. -/
theorem exists_follow_of_not_leadsOn (h : ¬ LeadsOn (answerTo ask p)) :
    ∃ listing, ∀ pages > 0, follow ask pages p.1 p.2 = (some listing, (turnPage ask p).1) := by
  by_cases hshows : ∃ tools, Shows (answerTo ask p) tools
  · obtain ⟨tools, v, hanswer, hreports⟩ := hshows
    have hlast : cursor? v = none := by
      by_contra hcursor
      exact h ⟨v, tools, hanswer, hreports, Option.isSome_iff_ne_none.mpr hcursor⟩
    refine ⟨.ok tools, fun pages hpages => ?_⟩
    obtain ⟨pages, rfl⟩ : ∃ rest, pages = rest + 1 := ⟨pages - 1, by omega⟩
    exact follow_of_shows_last hanswer hreports hlast pages
  · obtain ⟨e, -, hfollow⟩ := exists_follow_of_not_shows rfl (not_exists.mp hshows)
    exact ⟨.error e, hfollow⟩

/-- While all answers lead on, a listing goes on. -/
theorem follow_of_leadsOn {pages : Nat}
    (h : ∀ i < pages, LeadsOn (answerTo ask ((turnPage ask)^[i] p))) :
    follow ask pages p.1 p.2 = (none, ((turnPage ask)^[pages] p).1) := by
  induction pages generalizing p with
  | zero => rfl
  | succ pages ih =>
      have hfirst : LeadsOn (answerTo ask p) := h 0 (Nat.zero_lt_succ _)
      obtain ⟨tools, hfollow⟩ := exists_follow_of_leadsOn hfirst
      rw [hfollow, ih fun i hi => h (i + 1) (Nat.succ_lt_succ hi)]
      rfl

/-- The first answer that does not lead on is the last one that is asked for. -/
theorem exists_follow_of_end {n : Nat}
    (hmore : ∀ i < n, LeadsOn (answerTo ask ((turnPage ask)^[i] p)))
    (hlast : ¬ LeadsOn (answerTo ask ((turnPage ask)^[n] p))) :
    ∃ listing, ∀ pages > n,
      follow ask pages p.1 p.2 = (some listing, ((turnPage ask)^[n + 1] p).1) := by
  induction n generalizing p with
  | zero => exact exists_follow_of_not_leadsOn hlast
  | succ n ih =>
      have hfirst : LeadsOn (answerTo ask p) := hmore 0 (Nat.zero_lt_succ _)
      obtain ⟨tools, hfollow⟩ := exists_follow_of_leadsOn hfirst
      obtain ⟨listing, hrest⟩ := ih (fun i hi => hmore (i + 1) (Nat.succ_lt_succ hi)) hlast
      refine ⟨listing.map (tools ++ ·), fun pages hpages => ?_⟩
      obtain ⟨pages, rfl⟩ : ∃ rest, pages = rest + 1 := ⟨pages - 1, by omega⟩
      rw [hfollow, hrest pages (by omega)]
      rfl

/-- **A listing has not ended** exactly if all answers so far led on. -/
theorem follow_eq_none_iff {pages : Nat} : (follow ask pages p.1 p.2).1 = none ↔
    ∀ i < pages, LeadsOn (answerTo ask ((turnPage ask)^[i] p)) := by
  induction pages generalizing p with
  | zero => exact iff_of_true rfl nofun
  | succ pages ih =>
      rw [Nat.forall_lt_succ_left]
      by_cases hfirst : LeadsOn (answerTo ask p)
      · obtain ⟨tools, hfollow⟩ := exists_follow_of_leadsOn hfirst
        rw [hfollow]
        exact Option.map_eq_none_iff.trans (ih.trans (and_iff_right hfirst).symm)
      · obtain ⟨listing, hfollow⟩ := exists_follow_of_not_leadsOn hfirst
        rw [hfollow _ (Nat.zero_lt_succ _)]
        exact iff_of_false nofun fun hall => hfirst hall.1

/-- **A listing ends** exactly if some answer does not lead on. -/
theorem ends_iff : (∃ pages listing, (follow ask pages p.1 p.2).1 = some listing) ↔
    ∃ n, ¬ LeadsOn (answerTo ask ((turnPage ask)^[n] p)) := by
  constructor
  · rintro ⟨pages, listing, hends⟩
    by_contra hall
    rw [not_exists_not] at hall
    rw [follow_eq_none_iff.mpr fun i _ => hall i] at hends
    cases hends
  · rintro ⟨n, hlast⟩
    refine ⟨n + 1, Option.ne_none_iff_exists'.mp fun hnone => ?_⟩
    exact hlast (follow_eq_none_iff.mp hnone n (Nat.lt_succ_self n))

end Follow

end Listing

/-! ## Servers -/

variable {π : Type} [Peer π]

namespace Client

/-- A client that has asked for `n` pages of the listing, and the cursor of the next one. -/
def turned (client : Client π) (n : Nat) : Client π × Option String :=
  (Listing.turnPage fun c params => c.request Listing.method params)^[n] (client, none)

/-- What the server answers to the request for the page after the first `n`. -/
def page (client : Client π) (n : Nat) : Except Error Value :=
  Listing.answerTo (fun c params => c.request Listing.method params) (client.turned n)

theorem turned_succ (client : Client π) (n : Nat) : client.turned (n + 1) =
    Listing.turnPage (fun c params => c.request Listing.method params) (client.turned n) :=
  Function.iterate_succ_apply' _ _ _

theorem nextId_turned (client : Client π) (n : Nat) :
    (client.turned n).1.router.nextId = client.router.nextId + n := by
  induction n with
  | zero => rfl
  | succ n ih =>
      rw [turned_succ, Listing.turnPage, nextId_request, ih, Nat.add_assoc]

/-- **A listing sends one request for each page**, with its cursor. -/
theorem peer_turned (client : Client π) (n : Nat) : (client.turned n).1.peer =
    Peer.told client.peer ((List.range n).map fun i => Rpc.Request.line
      ⟨some (client.router.nextId + i), "tools/list", Listing.params (client.turned i).2⟩) := by
  induction n with
  | zero => rfl
  | succ n ih =>
      rw [turned_succ, Listing.turnPage, peer_request, nextId_turned, ih, List.range_succ,
        List.map_append, Peer.told, Peer.told, List.foldl_append]
      rfl

/-- The server leads on for this many pages. -/
def GoesOn (client : Client π) (pages : Nat) : Prop :=
  ∀ i < pages, Listing.LeadsOn (client.page i)

theorem goesOn_succ {client : Client π} {n : Nat} :
    client.GoesOn (n + 1) ↔ client.GoesOn n ∧ Listing.LeadsOn (client.page n) :=
  Nat.forall_lt_succ_right

theorem listTools_eq_none_iff {client : Client π} {pages : Nat} :
    (client.listTools pages).1 = none ↔ client.GoesOn pages :=
  Listing.follow_eq_none_iff (p := (client, none))

end Client

namespace Manager

theorem listServers_eq_none_iff {pages : Nat} {entries : List (String × Client π)} :
    listServers pages entries = none ↔ ∃ e ∈ entries, (e.2.listTools pages).1 = none := by
  induction entries with
  | nil => simp [listServers]
  | cons e rest ih =>
      rw [List.exists_mem_cons_iff, ← ih, listServers]
      split
      · next hfirst hrest => simp [hfirst, hrest]
      · next hneither =>
          refine iff_of_true rfl ?_
          by_contra hboth
          obtain ⟨hfirst, hrest⟩ := not_or.mp hboth
          obtain ⟨listing, hlisting⟩ := Option.ne_none_iff_exists'.mp hfirst
          obtain ⟨⟨clients, tools⟩, hlisted⟩ := Option.ne_none_iff_exists'.mp hrest
          exact hneither listing (e.2.listTools pages).2 clients tools
            (Prod.ext hlisting rfl) hlisted

theorem load_eq_none_iff {m : Manager π} {pages : Nat} :
    m.load pages = none ↔ ∃ e ∈ m.clients.entries, e.2.GoesOn pages := by
  rw [load, Option.map_eq_none_iff, listServers_eq_none_iff]
  simp only [Client.listTools_eq_none_iff]

end Manager

/-- **When a session starts.** However the requests for pages are answered, a listing ends exactly
if some answer does not lead on. A server that has led on for some pages was sent one request for
each, with the cursors that it gave; the listing goes on, and if the next answer does not lead on,
it ends with that. So the tools are not loaded, and a session not started, exactly as long as some
server leads on. -/
theorem Session.starts_iff {μ α : Type} :
    (∀ (σ : Type) (ask : σ → Option Value → Except Error Value × σ) (s : σ),
      (∃ pages listing, (Listing.follow ask pages s none).1 = some listing) ↔
        ∃ n, ¬ Listing.LeadsOn (Listing.answerTo ask ((Listing.turnPage ask)^[n] (s, none)))) ∧
    (∀ (client : Client π) (n : Nat), client.GoesOn n →
      client.listTools n = (none, (client.turned n).1) ∧
      (¬ client.GoesOn (n + 1) → ∃ listing, ∀ pages > n,
        client.listTools pages = (some listing, (client.turned (n + 1)).1)) ∧
      (client.turned n).1.peer = Peer.told client.peer ((List.range n).map fun i =>
        Rpc.Request.line
          ⟨some (client.router.nextId + i), "tools/list", Listing.params (client.turned i).2⟩)) ∧
    (∀ (m : Manager π) (pages : Nat),
      m.load pages = none ↔ ∃ e ∈ m.clients.entries, e.2.GoesOn pages) ∧
    ∀ (pages : Nat) (config : Config) (conversationId : String) (box : Toolbox π) (model : μ)
      (approver : α), Session.open? pages config conversationId box model approver = none ↔
        ∃ e ∈ box.manager.clients.entries, e.2.GoesOn pages := by
  refine ⟨fun σ ask s => ?_, fun client n hmore => ⟨?_, fun hends => ?_, client.peer_turned n⟩,
    fun m pages => Manager.load_eq_none_iff, fun pages config id box model approver => ?_⟩
  · exact Listing.ends_iff (p := (s, none))
  · exact Listing.follow_of_leadsOn (p := (client, none)) hmore
  · have hlast : ¬ Listing.LeadsOn (client.page n) := fun hleads =>
      hends (Client.goesOn_succ.mpr ⟨hmore, hleads⟩)
    exact Listing.exists_follow_of_end (p := (client, none)) hmore hlast
  · rw [Session.open?, Option.map_eq_none_iff, Manager.load_eq_none_iff]

/-! ## A server that goes round in circles -/

/-- A server that answers every request with one and the same cursor. It counts the requests, for
its answers to carry their numbers. -/
structure Circling where
  requests : Nat

namespace Circling

/-- What it answers. -/
def answer : Value := .object [("nextCursor", .string "again")]

/-- What stands before the number of an answer. -/
def opening : List Char := "\x7b\"id\":".toList

/-- What stands behind the number of an answer. -/
def closing : List Char := ",\"result\":\x7b\"nextCursor\":\"again\"\x7d\x7d".toList

/-- Its answer to the request with this number. -/
def reply (n : Nat) : List Char := opening ++ Nat.toDigits 10 n ++ closing

instance : Peer Circling where
  greeting s := (⟨[], false⟩, s)
  send s _ := (.ok ⟨Utf8.encode (reply s.requests) ++ [10], false⟩, ⟨s.requests + 1⟩)

theorem parse_reply {n : Nat} (hn : n ≤ Json.maxWord) :
    Json.parse (String.ofList (reply n)) =
      .ok (.object [("id", .ofNat n), ("result", answer)]) := by
  have hmembers : Value.ofMembers [("id", .ofNat n), ("result", answer)] =
      .object [("id", .ofNat n), ("result", answer)] := by
    have hput : Entries.put "result" answer [("id", .ofNat n)] =
        [("id", .ofNat n), ("result", answer)] := by
      rw [Entries.put, if_neg (by decide), if_neg (by decide), Entries.put]
    simp only [Value.ofMembers, Entries.addAll, List.foldl_cons, List.foldl_nil]
    exact congrArg Value.object hput
  have hreply : reply n = '\x7b' :: '"' :: ("id".toList ++ '"' :: ':' :: (Nat.toDigits 10 n ++
      ',' :: '"' :: ("result".toList ++ '"' :: ':' :: '\x7b' :: '"' :: ("nextCursor".toList ++
        '"' :: ':' :: '"' :: ("again".toList ++ '"' :: '\x7d' :: ['\x7d']))))) := by
    rw [reply, List.append_assoc]
    rfl
  -- The scan goes into the objects and comes out again, so it is told from the inside.
  have hcursor := @Json.leaves_scanMember 2 "nextCursor".toList _ _ _ _ _
    (Json.standsForItself_of_all (by decide))
    (@Json.leaves_scanValue_string 2 "again".toList (Json.standsForItself_of_all (by decide)) _)
    (Json.leaves_scanMembers_done ['\x7d'])
  have hresult := @Json.leaves_scanMember 1 "result".toList _ _ _ _ _
    (Json.standsForItself_of_all (by decide))
    (Json.leaves_scanValue_object (Json.leaves_scanMembers_first hcursor))
    (Json.leaves_scanMembers_done [])
  have hid := @Json.leaves_scanMember 1 "id".toList _ _ _ _ _
    (Json.standsForItself_of_all (by decide))
    (Json.leaves_scanValue_number hn _) (Json.leaves_scanMembers_next hresult)
  have hscan := Json.scan_eq (Json.leaves_scanValue_object (Json.leaves_scanMembers_first hid))
  rw [Json.parse, Json.readText, String.toList_ofList, hreply, hscan]
  exact congrArg Except.ok hmembers

theorem ofLine_reply {n : Nat} (hn : n ≤ Json.maxWord) :
    Rpc.Incoming.ofLine (String.ofList (reply n)) = .reply n (some ⟨some answer, none⟩) := by
  rw [Rpc.Incoming.ofLine, parse_reply hn]
  rfl

/-- A reply is on one line. -/
theorem ne_newline_of_mem_reply {n : Nat} {c : Char} (hc : c ∈ reply n) : c ≠ '\n' := by
  rw [reply, List.append_assoc, List.mem_append, List.mem_append] at hc
  have hopening : opening.all (· ≠ '\n') := by decide
  have hclosing : closing.all (· ≠ '\n') := by decide
  rcases hc with hc | hc | hc
  · exact of_decide_eq_true (List.all_eq_true.mp hopening c hc)
  · rintro rfl
    cases Json.isDigit_of_mem_toDigits _ hc
  · exact of_decide_eq_true (List.all_eq_true.mp hclosing c hc)

theorem completeLines_reply (n : Nat) : Text.completeLines (· == 10)
    (Utf8.encode (reply n) ++ [10]) = ([Utf8.encode (reply n)], []) := by
  refine Text.completeLines_line (fun b hb => beq_false_of_ne fun hten => ?_) rfl
  subst hten
  obtain ⟨c, hc, heq⟩ := Utf8.exists_of_mem_encode hb (by decide)
  exact ne_newline_of_mem_reply hc (Char.toNat_inj.mp heq)

theorem ofBytes_reply (n : Nat) :
    Signal.ofBytes (Utf8.encode (reply n)) = .line (String.ofList (reply n)) := by
  rw [Signal.ofBytes, Utf8.toString?, Utf8.decode?_encode]
  rfl

/-- The client and the server are in step. -/
structure InStep (c : Client Circling) : Prop where
  sound : c.router.Sound
  reads : c.router.closed = false
  silent : c.inbox = []
  endless : c.inboxEnds = false
  numbers : c.peer.requests = c.router.nextId

theorem inStep_ofPeer (label : String) (timeout : Nat) :
    InStep (Client.ofPeer label timeout (⟨0⟩ : Circling)) :=
  ⟨Router.sound_start, rfl, rfl, rfl, rfl⟩

variable {c : Client Circling}

theorem InStep.readings_eq (h : InStep c) (n : Nat) :
    (c.hear ⟨Utf8.encode (reply n) ++ [10], false⟩).readings =
      [.line (String.ofList (reply n))] := by
  rw [Client.readings, Client.hear, h.silent, h.endless, List.nil_append, completeLines_reply]
  exact congrArg ([·]) (ofBytes_reply n)

theorem InStep.replyTo_eq (h : InStep c) (hn : c.router.nextId ≤ Json.maxWord) (method : String)
    (params : Option Value) : c.replyTo method params = some (some ⟨some answer, none⟩) := by
  rw [Client.replyTo]
  dsimp only [Peer.send]
  rw [h.reads, if_neg Bool.false_ne_true, h.readings_eq, Signal.answerTo?, h.numbers,
    ofLine_reply hn]
  exact if_pos rfl

/-- Each request gets the answer. -/
theorem InStep.request_eq (h : InStep c) (hn : c.router.nextId ≤ Json.maxWord) (method : String)
    (params : Option Value) : (c.request method params).1 = .ok answer :=
  Client.request_of_reply h.sound (h.replyTo_eq hn method params) rfl

theorem InStep.request (h : InStep c) (method : String) (params : Option Value) :
    InStep (c.request method params).2 where
  sound := Client.sound_await (Client.sound_post h.sound method params) _ method
  reads := by
    show (((c.router.step .begin).run (c.hear _).readings).step (.expire _)).closed = false
    rw [h.readings_eq, Router.closed_step_expire]
    exact (Router.closed_step_line _ _).trans h.reads
  silent := by
    show (if (c.inboxEnds || false) = true then [] else
      (Text.completeLines (· == 10) (c.inbox ++ (Utf8.encode (reply _) ++ [10]))).2) = []
    rw [h.endless, h.silent, List.nil_append, completeLines_reply]
    rfl
  endless := by
    show (c.inboxEnds || false) = false
    rw [h.endless]
    rfl
  numbers := by
    rw [Client.nextId_request, ← h.numbers]
    rfl

theorem leadsOn_answer : Listing.LeadsOn (.ok answer) :=
  ⟨answer, [], rfl, ⟨[], rfl, .nil⟩, rfl⟩

theorem inStep_turned (h : InStep c) (n : Nat) : InStep (c.turned n).1 := by
  induction n with
  | zero => exact h
  | succ n ih =>
      rw [Client.turned_succ]
      exact ih.request Listing.method (Listing.params (c.turned n).2)

/-- The listing goes on as long as there are numbers. -/
theorem leadsOn_page (h : InStep c) {n : Nat} (hn : c.router.nextId + n ≤ Json.maxWord) :
    Listing.LeadsOn (c.page n) := by
  have hpage : c.page n = .ok answer :=
    (inStep_turned h n).request_eq (by rwa [Client.nextId_turned]) _ _
  rw [hpage]
  exact leadsOn_answer

/-- The client of this server. -/
def client : Client Circling := .ofPeer "docs" 1000 ⟨0⟩

/-- A toolbox with this server. -/
def box : Toolbox Circling where
  place := ⟨"/", "/", 0, []⟩
  tree := .dir []
  manager := ⟨⟨[("docs", client)], by simp⟩, .empty⟩

theorem goesOn_client {pages : Nat} (h : pages ≤ Json.maxWord + 1) : client.GoesOn pages := by
  intro n hn
  refine leadsOn_page (inStep_ofPeer "docs" 1000) ?_
  show 0 + n ≤ Json.maxWord
  omega

end Circling

/-- **A listing that goes round in circles does not end**, whatever the number of requests, and with
a server behind it there is no start, as long as there are numbers for the requests. -/
theorem Session.not_started :
    (∀ pages, Listing.follow (fun n _ => (.ok Circling.answer, n + 1)) pages 0 none =
      (none, pages)) ∧
    ∀ pages ≤ Json.maxWord + 1,
      (∃ c, Circling.client.listTools pages = (none, c) ∧ c.peer.requests = pages) ∧
      Circling.box.manager.load pages = none ∧
      Session.open? pages .standard "1" Circling.box () () = none := by
  refine ⟨fun pages => ?_, fun pages hpages => ?_⟩
  · have hturned : ((Listing.turnPage fun n _ => (.ok Circling.answer, n + 1))^[pages]
        (0, none)).1 = pages := by
      induction pages with
      | zero => rfl
      | succ pages ih =>
          rw [Function.iterate_succ_apply', Listing.turnPage, ih]
    have hmore : ∀ i < pages, Listing.LeadsOn (Listing.answerTo
        (fun (n : Nat) (_ : Option Value) => (.ok Circling.answer, n + 1))
        ((Listing.turnPage fun n _ => (.ok Circling.answer, n + 1))^[i] (0, none))) :=
      fun _ _ => Circling.leadsOn_answer
    rw [Listing.follow_of_leadsOn hmore, hturned]
  · have hmore := Circling.goesOn_client hpages
    have hserver : ∃ e ∈ Circling.box.manager.clients.entries, e.2.GoesOn pages :=
      ⟨_, List.mem_singleton_self _, hmore⟩
    have hstep := Circling.inStep_turned (Circling.inStep_ofPeer "docs" 1000) pages
    have hload := Manager.load_eq_none_iff.mpr hserver
    refine ⟨⟨_, Listing.follow_of_leadsOn (p := (Circling.client, none)) hmore, ?_⟩, hload, ?_⟩
    · exact hstep.numbers.trans ((Client.nextId_turned _ _).trans (Nat.zero_add pages))
    · rw [Session.open?, hload, Option.map_none]

end ToolAgent
