import ToolAgent.Proofs.Session.Account
import ToolAgent.Proofs.Session.Failure

/-!
# Streamed and buffered output

The text of a response is shown in fragments while it arrives, or as a whole once it is complete.
Nothing else depends on that, and in the end the same text was shown.

* `Twins` — sessions that differ only in whether they stream and in what was shown. All that is done
  to them comes to the same and leaves twins (`Alike`): one lemma for each operation, then the
  rounds and the endings of a turn (`Rounds.twins`, `Ends.twins`).
* `Shows` — the text that is shown from one session to another: that of the responses
  (`Rounds.shows`, `Ends.shows_ok`), and of a response that is not completed whatever had arrived
  (`Ends.shows_error`).
* `streaming_agrees` — a turn with streaming and one without.
-/

namespace ToolAgent

variable {τ μ α π : Type}

theorem Act.filterMap_shown?_said (texts : List String) :
    (texts.map Act.said).filterMap Act.shown? = texts := by
  rw [List.filterMap_map]
  exact List.filterMap_some

namespace Session

/-! ## What is shown -/

/-- From one session to another, acts are only added to what was done, and `text` is shown by
them. -/
def Shows (s s' : Session τ μ α) (text : String) : Prop :=
  ∃ log, s'.acts = s.acts ++ log ∧ String.join (log.filterMap Act.shown?) = text

namespace Shows

variable {s s' s'' : Session τ μ α} {text later : String}

theorem of_notes (h : Notes (·.shown? = none) s s') : Shows s s' "" := by
  obtain ⟨log, hacts, hlog⟩ := h
  refine ⟨log, hacts, ?_⟩
  rw [List.filterMap_eq_nil_iff.mpr hlog]
  rfl

theorem trans (h : Shows s s' text) (h' : Shows s' s'' later) : Shows s s'' (text ++ later) := by
  obtain ⟨log, hacts, rfl⟩ := h
  obtain ⟨log', hacts', rfl⟩ := h'
  refine ⟨log ++ log', by rw [hacts', hacts, List.append_assoc], ?_⟩
  rw [List.filterMap_append, String.join_append]

theorem join_eq (h : Shows s s' text) :
    String.join ((s'.acts.drop s.acts.length).filterMap Act.shown?) = text := by
  obtain ⟨log, hacts, hlog⟩ := h
  rw [hacts, List.drop_left, hlog]

end Shows

/-- What is shown of a complete response is its text, in one piece or in several. -/
theorem join_shownOf {answer : Except Error EventStream} {r : Response}
    (h : (answer.bind fun stream => (collect stream).response) = .ok r) (streaming : Bool) :
    String.join (shownOf streaming answer) = r.text := by
  cases answer with
  | error e => cases h
  | ok stream =>
      have hresponse : (collect stream).response = .ok r := h
      cases streaming with
      | true =>
          have htext := text_eq_join_fragments hresponse
          rw [htext]
          exact String.empty_append.symm
      | false => simp [shownOf, shown, hresponse]

section Converse

variable [ChatModel μ] {s after : Session τ μ α}

/-- What talking to the model shows. -/
theorem shows_converse {messages : List Message} {result : Except Error Response}
    (hsend : s.conversation.sendable = .ok messages) (h : s.converse = (result, after)) :
    Shows s after (String.join (shownOf s.config.streaming
      (ChatModel.send s.model (s.request messages s.conversation.tools)).1)) := by
  rw [converse_of_sendable hsend] at h
  obtain ⟨-, rfl⟩ := Prod.mk.inj h
  exact ⟨_, rfl, congrArg String.join (Act.filterMap_shown?_said _)⟩

theorem shows_converse_ok {r : Response} (h : s.converse = (.ok r, after)) :
    Shows s after r.text := by
  obtain ⟨messages, hsend⟩ := sendable_of_converse h
  have hshows := shows_converse hsend h
  rw [converse_of_sendable hsend] at h
  obtain ⟨hresponse, -⟩ := Prod.mk.inj h
  rwa [join_shownOf hresponse] at hshows

/-- Without streaming nothing is shown of a response that is not complete. -/
theorem shows_converse_error {e : Error} (h : s.converse = (.error e, after)) :
    ∃ text, Shows s after text ∧ (s.config.streaming = false → text = "") := by
  cases hsend : s.conversation.sendable with
  | error failure =>
      simp only [converse, hsend] at h
      obtain ⟨-, rfl⟩ := Prod.mk.inj h
      exact ⟨"", .of_notes (.of_acts_eq rfl), fun _ => rfl⟩
  | ok messages =>
      refine ⟨_, shows_converse hsend h, fun hbuffered => ?_⟩
      rw [converse_of_sendable hsend] at h
      obtain ⟨events, hfails⟩ := exists_of_drained (Prod.mk.inj h).1
      rw [shownOf_of_noResponse hfails, hbuffered]
      rfl

end Converse

/-! ## Twins -/

/-- The session with streaming switched on or off. -/
def setStreaming (s : Session τ μ α) (streaming : Bool) : Session τ μ α :=
  { s with config := { s.config with streaming } }

/-- Sessions that differ at most in whether they stream and in what was shown: they have the same
conversation, permissions, workbench, model and approver, and the same was done otherwise. -/
def Twins (s z : Session τ μ α) : Prop :=
  ∃ streaming acts, z = { s with config := { s.config with streaming }, acts } ∧
    acts.filter (!·.isShown) = s.acts.filter (!·.isShown)

/-- Two operations come to the same and leave twins. -/
def Alike {β : Type} (x y : β × Session τ μ α) : Prop := y.1 = x.1 ∧ Twins x.2 y.2

namespace Twins

variable {s z : Session τ μ α}

theorem setStreaming (s : Session τ μ α) (streaming streaming' : Bool) :
    Twins (s.setStreaming streaming) (s.setStreaming streaming') :=
  ⟨streaming', s.acts, rfl, rfl⟩

theorem permissions_eq (h : Twins s z) : z.permissions = s.permissions := by
  obtain ⟨_, _, rfl, -⟩ := h
  rfl

theorem workbench_eq (h : Twins s z) : z.workbench = s.workbench := by
  obtain ⟨_, _, rfl, -⟩ := h
  rfl

/-- The same acts, apart from those that show something, leave twins. -/
theorem note (h : Twins s z) {acts acts' : List Act}
    (hacts : acts'.filter (!·.isShown) = acts.filter (!·.isShown)) :
    Twins (s.note acts) (z.note acts') := by
  obtain ⟨streaming, done, rfl, hdone⟩ := h
  refine ⟨streaming, done ++ acts', rfl, ?_⟩
  show _ = (s.acts ++ acts).filter _
  rw [List.filter_append, List.filter_append, hdone, hacts]

section Converse

variable [ChatModel μ]

theorem converse (h : Twins s z) : Alike s.converse z.converse := by
  obtain ⟨streaming, acts, rfl, hacts⟩ := h
  cases hsend : s.conversation.sendable with
  | error e =>
      simp only [Session.converse, hsend]
      exact ⟨rfl, streaming, acts, rfl, hacts⟩
  | ok messages =>
      have hz := converse_of_sendable
        (s := { s with config := { s.config with streaming }, acts }) hsend
      rw [converse_of_sendable hsend, hz]
      refine ⟨rfl, streaming, _, rfl, ?_⟩
      simp only [List.filter_append, List.filter_cons, hacts, Act.filter_said]
      rfl

theorem converse_eq (h : Twins s z) {result : Except Error Response} {after : Session τ μ α}
    (hconverse : s.converse = (result, after)) :
    ∃ after', z.converse = (result, after') ∧ Twins after after' := by
  obtain ⟨hresult, hafter⟩ := h.converse
  rw [hconverse] at hresult hafter
  exact ⟨z.converse.2, Prod.ext hresult rfl, hafter⟩

end Converse

theorem answer (h : Twins s z) {message : AssistantMessage} {after : Session τ μ α}
    (hanswer : s.answer message = .ok after) :
    ∃ after', z.answer message = .ok after' ∧ Twins after after' := by
  obtain ⟨streaming, acts, rfl, hacts⟩ := h
  obtain ⟨conversation, hok, rfl⟩ := answer_eq_ok hanswer
  refine ⟨_, ?_, streaming, acts, rfl, hacts⟩
  rw [Session.answer]
  show (s.conversation.answer message).map _ = _
  rw [hok]
  rfl

theorem mapConversation (h : Twins s z) (f : Conversation → Conversation) :
    Twins { s with conversation := f s.conversation }
      { z with conversation := f z.conversation } := by
  obtain ⟨streaming, acts, rfl, hacts⟩ := h
  exact ⟨streaming, acts, rfl, hacts⟩

theorem mapPermissions (h : Twins s z) (f : Permissions → Permissions) :
    Twins { s with permissions := f s.permissions } { z with permissions := f z.permissions } := by
  obtain ⟨streaming, acts, rfl, hacts⟩ := h
  exact ⟨streaming, acts, rfl, hacts⟩

theorem ask [Approver α] (h : Twins s z) (use : ToolUse) (description : String) :
    Alike (s.ask use description) (z.ask use description) := by
  obtain ⟨streaming, acts, rfl, hacts⟩ := h
  refine ⟨rfl, ?_⟩
  have hasked : Twins { s with approver := (Approver.ask s.approver use description).2 } _ :=
    ⟨streaming, acts, rfl, hacts⟩
  exact hasked.note rfl

variable [Workbench τ π]

theorem invoke (h : Twins s z) (use : ToolUse) (tool : Tool) :
    Alike (s.invoke use tool) (z.invoke use tool) := by
  obtain ⟨streaming, acts, rfl, hacts⟩ := h
  refine ⟨rfl, ?_⟩
  have hinvoked : Twins { s with workbench := (Workbench.invoke s.workbench tool).2 } _ :=
    ⟨streaming, acts, rfl, hacts⟩
  exact hinvoked.note rfl

theorem askEach [Approver α] (h : Twins s z) (trusted : List String)
    (candidates : List Candidate) :
    Alike (askEach trusted candidates s) (askEach trusted candidates z) := by
  induction candidates generalizing trusted s z with
  | nil => exact ⟨rfl, h⟩
  | cons c rest ih =>
      rw [Session.askEach, Session.askEach, h.permissions_eq, h.workbench_eq]
      split
      · exact ih h trusted
      · next tool _ =>
          split
          · exact ih h trusted
          · have hask := h.ask c.use (Workbench.describe s.workbench tool)
            generalize s.ask c.use (Workbench.describe s.workbench tool) = asked at hask
            generalize z.ask c.use (Workbench.describe s.workbench tool) = asked' at hask
            obtain ⟨answer, after⟩ := asked
            obtain ⟨answer', after'⟩ := asked'
            obtain ⟨rfl, htwins⟩ : answer' = answer ∧ Twins after after' := hask
            cases answer' with
            | yes => exact ih htwins trusted
            | trust => exact ih htwins (trusted ++ [tool.name])
            | no => exact ⟨rfl, htwins⟩

theorem invokeEach (h : Twins s z) (candidates : List Candidate) :
    Alike (invokeEach candidates s) (invokeEach candidates z) := by
  induction candidates generalizing s z with
  | nil => exact ⟨rfl, h⟩
  | cons c rest ih =>
      rw [Session.invokeEach, Session.invokeEach]
      split
      · next r _ =>
          obtain ⟨hanswers, hafter⟩ := ih h
          exact ⟨congrArg (_ :: ·) hanswers, hafter⟩
      · next tool _ =>
          obtain ⟨houtcome, hinvoked⟩ := h.invoke c.use tool
          obtain ⟨hanswers, hafter⟩ := ih hinvoked
          dsimp only
          refine ⟨?_, hafter⟩
          show _ :: _ = _ :: _
          rw [houtcome, hanswers]

/-- **A batch comes to the same**: the same questions are asked, the same tools run, and the same
results are staged. -/
theorem runBatch [Approver α] (h : Twins s z) (uses : List ToolUse) :
    Alike (s.runBatch uses) (z.runBatch uses) := by
  have hasked := h.askEach [] (uses.map (Candidate.ofUse s.workbench))
  rw [Session.runBatch, Session.runBatch, h.workbench_eq]
  dsimp only
  -- The candidates are the same on both sides, so the hearings are alike.
  generalize Session.askEach [] (uses.map (Candidate.ofUse s.workbench)) s = asked at hasked
  generalize Session.askEach [] (uses.map (Candidate.ofUse s.workbench)) z = asked' at hasked
  obtain ⟨ending, after⟩ := asked
  obtain ⟨ending', after'⟩ := asked'
  obtain ⟨rfl, hafter⟩ : ending' = ending ∧ Twins after after' := hasked
  cases ending' with
  | none => exact ⟨rfl, hafter.mapConversation (·.abandon uses none)⟩
  | some trusted =>
      have htrusting := hafter.mapPermissions (trusted.foldl .trust ·)
      obtain ⟨hanswers, hinvoked⟩ :=
        htrusting.invokeEach (uses.map (Candidate.ofUse s.workbench))
      dsimp only
      rw [hanswers]
      exact ⟨rfl, hinvoked.mapConversation fun c => c.addResults _⟩

end Twins

/-! ## Turns of twins -/

variable [Workbench τ π] [ChatModel μ] [Approver α]

/-- **Rounds come to the same**: twins go through rounds with the same responses to twins. -/
theorem Rounds.twins {t t' : Turn} {s s' z : Session τ μ α} {rounds : List (Round τ μ α)}
    (h : Rounds t s rounds t' s') (hz : Twins s z) :
    ∃ rounds' z', Rounds t z rounds' t' z' ∧ Twins s' z' ∧
      rounds'.map (·.response) = rounds.map (·.response) := by
  induction h generalizing z with
  | none => exact ⟨[], z, .none, hz, rfl⟩
  | @round t s r received batch rounds t' s' hconverse huses hanswer hcan _ ih =>
      obtain ⟨received', hconverse', hreceived⟩ := hz.converse_eq hconverse
      obtain ⟨batch', hanswer', hbatch⟩ := hreceived.answer hanswer
      obtain ⟨hran, hafter⟩ := hbatch.runBatch r.toolUses
      obtain ⟨rounds', z', hrounds, htwins, hresponses⟩ := ih hafter
      rw [← hran] at hrounds
      exact ⟨_, z', .round hconverse' huses hanswer' hcan hrounds, htwins,
        congrArg (r :: ·) hresponses⟩

omit [Workbench τ π] [Approver α] in
/-- The endings of twins come to the same. -/
theorem Ends.twins {t : Turn} {s s' z : Session τ μ α} {result : Except Error Outcome}
    (h : Ends t s result s') (hz : Twins s z) : ∃ z', Ends t z result z' ∧ Twins s' z' := by
  cases h with
  | failed hconverse =>
      obtain ⟨received', hconverse', hreceived⟩ := hz.converse_eq hconverse
      exact ⟨_, .failed hconverse', hreceived⟩
  | answered hconverse huses hanswer =>
      obtain ⟨received', hconverse', hreceived⟩ := hz.converse_eq hconverse
      obtain ⟨after', hanswer', hafter⟩ := hreceived.answer hanswer
      exact ⟨after', .answered hconverse' huses hanswer', hafter⟩
  | @limited r _ _ _ hconverse huses hanswer hcan hclose =>
      obtain ⟨received', hconverse', hreceived⟩ := hz.converse_eq hconverse
      obtain ⟨asked', hanswer', hasked⟩ := hreceived.answer hanswer
      rw [closeAtLimit_eq] at hclose
      obtain ⟨after', hclose', hafter⟩ :=
        (hasked.mapConversation fun c => c.addResults _).answer hclose
      exact ⟨after', .limited hconverse' huses hanswer' hcan hclose', hafter⟩

/-! ## What a turn shows -/

/-- **The rounds of a turn show the texts of their responses.** -/
theorem Rounds.shows {t t' : Turn} {s s' : Session τ μ α} {rounds : List (Round τ μ α)}
    (h : Rounds t s rounds t' s') :
    Shows s s' (String.join (rounds.map (·.response.text))) := by
  induction h with
  | none => exact .of_notes (.of_acts_eq rfl)
  | @round t s r received batch rounds t' s' hconverse _ hanswer _ _ ih =>
      have hbatch : Shows batch (batch.runBatch r.toolUses).2 "" :=
        .of_notes ((notes_runBatch batch r.toolUses).imp fun _ => Act.shown?_of_concernsTool)
      have hround := (shows_converse_ok hconverse).trans (.of_notes (notes_answer hanswer))
      have hall := (hround.trans hbatch).trans ih
      rw [String.append_empty, String.append_empty] at hall
      rwa [List.map_cons, String.join_cons]

omit [Workbench τ π] [Approver α] in
/-- The ending of a turn shows the text of the last response, if there is one. -/
theorem Ends.shows_ok {t : Turn} {s s' : Session τ μ α} {outcome : Outcome}
    (h : Ends t s (.ok outcome) s') :
    ∃ last received, s.converse = (.ok last, received) ∧ Shows s s' last.text := by
  cases h with
  | @answered last received _ hconverse _ hanswer =>
      have hshows := (shows_converse_ok hconverse).trans (.of_notes (notes_answer hanswer))
      rw [String.append_empty] at hshows
      exact ⟨last, received, hconverse, hshows⟩
  | @limited last received _ _ hconverse _ hanswer _ hclose =>
      have hshows := (shows_converse_ok hconverse).trans
        (.of_notes ((notes_answer hanswer).trans (notes_closeAtLimit hclose)))
      rw [String.append_empty] at hshows
      exact ⟨last, received, hconverse, hshows⟩

omit [Workbench τ π] [Approver α] in
theorem Ends.shows_error {t : Turn} {s s' : Session τ μ α} {e : Error}
    (h : Ends t s (.error e) s') :
    ∃ text, Shows s s' text ∧ (s.config.streaming = false → text = "") := by
  cases h with
  | failed hconverse => exact shows_converse_error hconverse

omit [Workbench τ π] [Approver α] in
/-- The endings of twins show the same text, if there is an outcome. -/
theorem Ends.shows_alike {t : Turn} {s s' z z' : Session τ μ α} {outcome : Outcome}
    (htwins : Twins s z) (h : Ends t s (.ok outcome) s') (hz : Ends t z (.ok outcome) z') :
    ∃ last received, s.converse = (.ok last, received) ∧ Shows s s' last.text ∧
      Shows z z' last.text := by
  obtain ⟨last, received, hconverse, hshows⟩ := h.shows_ok
  obtain ⟨last', received', hconverse', hshows'⟩ := hz.shows_ok
  obtain ⟨_, htwin, -⟩ := htwins.converse_eq hconverse
  have hsame : last' = last := by
    obtain ⟨hresult, -⟩ := Prod.mk.inj (hconverse'.symm.trans htwin)
    exact Except.ok.inj hresult
  exact ⟨last, received, hconverse, hshows, hsame ▸ hshows'⟩

/-- The texts that are shown in a turn. -/
def turnTexts (s : Session τ μ α) (input : String) : List String :=
  ((s.process input).2.acts.drop s.acts.length).filterMap Act.shown?

theorem turn_eq {s s' z : Session τ μ α} {input : String} {t : Turn} {rounds : List (Round τ μ α)}
    {result : Except Error Outcome} (hrounds : Rounds s.freshTurn (s.say input) rounds t s')
    (hends : Ends t s' result z) : s.process input = (result, z) := by
  rw [process_eq, hrounds.continueTurn_eq, hends.continueTurn_eq]

theorem join_turnTexts {s s' after : Session τ μ α} {input text : String} {t : Turn}
    {rounds : List (Round τ μ α)} {result : Except Error Outcome}
    (hrounds : Rounds s.freshTurn (s.say input) rounds t s') (hends : Ends t s' result after)
    (hlast : Shows s' after text) :
    String.join (s.turnTexts input) =
      String.join (rounds.map (·.response.text)) ++ text := by
  rw [turnTexts, turn_eq hrounds hends]
  exact (hrounds.shows.trans hlast).join_eq

/-- **Streaming and buffering agree.** A turn with streaming and one without come to the same, an
outcome or an error, and leave twins: the same requests are sent, the same questions asked and the
same tools run, and conversation and permissions are the same in the end. If there is an outcome,
both show the texts of all responses, in order; if there is an error, what is shown without
streaming is the beginning of what is shown with it. -/
theorem streaming_agrees (s : Session τ μ α) (input : String) :
    let streamed := (s.setStreaming true).process input
    let buffered := (s.setStreaming false).process input
    let texts (streaming : Bool) := String.join ((s.setStreaming streaming).turnTexts input)
    buffered.1 = streamed.1 ∧ Twins streamed.2 buffered.2 ∧
      ∃ rounds t' s', Rounds s.freshTurn ((s.setStreaming true).say input) rounds t' s' ∧
        Ends t' s' streamed.1 streamed.2 ∧
        (∀ outcome, streamed.1 = .ok outcome → ∃ last received,
          s'.converse = (.ok last, received) ∧
          texts true = String.join ((rounds.map (·.response) ++ [last]).map (·.text)) ∧
          texts false = texts true) ∧
        ∀ e, streamed.1 = .error e → ∃ rest, texts true = texts false ++ rest := by
  intro streamed buffered texts
  obtain ⟨rounds, t', s', hrounds, hends⟩ :
      ∃ rounds t' s', Rounds s.freshTurn ((s.setStreaming true).say input) rounds t' s' ∧
        Ends t' s' streamed.1 streamed.2 := exists_rounds _ _
  have htwins : Twins ((s.setStreaming true).say input) ((s.setStreaming false).say input) :=
    (Twins.setStreaming s true false).mapConversation (·.say input)
  obtain ⟨rounds', z', hrounds', hopening, hresponses⟩ := hrounds.twins htwins
  obtain ⟨after', hends', hafter⟩ := hends.twins hopening
  have hbuffered : buffered = (streamed.1, after') := turn_eq hrounds' hends'
  have htexts : rounds'.map (·.response.text) = rounds.map (·.response.text) := by
    have hmapped := congrArg (List.map (·.text)) hresponses
    rw [List.map_map, List.map_map] at hmapped
    exact hmapped
  refine ⟨by rw [hbuffered], by rw [hbuffered]; exact hafter, rounds, t', s', hrounds, hends,
    ?_, ?_⟩
  · intro outcome houtcome
    rw [houtcome] at hends hends'
    obtain ⟨last, received, hconverse, hlast, hlast'⟩ := Ends.shows_alike hopening hends hends'
    have hstreamed : texts true = _ := join_turnTexts hrounds hends hlast
    have hbuffer : texts false = _ := join_turnTexts hrounds' hends' hlast'
    refine ⟨last, received, hconverse, ?_, ?_⟩
    · rw [hstreamed, List.map_append, String.join_append, List.map_map]
      simp [Function.comp_def]
    · rw [hbuffer, hstreamed, htexts]
  · intro e he
    rw [he] at hends hends'
    -- Of the last response the buffered turn has shown nothing, the other one what had arrived.
    obtain ⟨text, hlast, -⟩ := hends.shows_error
    obtain ⟨text', hlast', hnone⟩ := hends'.shows_error
    have hempty : text' = "" := hnone (by rw [hrounds'.config_eq]; rfl)
    have hstreamed : texts true = _ := join_turnTexts hrounds hends hlast
    have hbuffer : texts false = _ := join_turnTexts hrounds' hends' hlast'
    refine ⟨text, ?_⟩
    rw [hstreamed, hbuffer, hempty, htexts, String.append_empty]

end Session

end ToolAgent
