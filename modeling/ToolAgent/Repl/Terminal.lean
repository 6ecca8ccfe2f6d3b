import ToolAgent.Session.Process

/-!
# The user's terminal

What the user types comes as lines. A question takes the next line as its answer; a line that is no
text, or no line at all, means no.
-/

namespace ToolAgent

/-- A line of input without its end; nothing if it is no text. -/
abbrev InputLine := Option String

/-- The lines that were not read yet. -/
structure Terminal where
  unread : List InputLine
deriving Repr

namespace Terminal

/-- The lines of an input. -/
def ofBytes (input : Bytes) : Terminal :=
  let (lines, rest) := Text.completeLines (· == 10) input
  ⟨(lines ++ if rest = [] then [] else [rest]).map Utf8.toString?⟩

/-- What the next line says to a question. -/
def answer (t : Terminal) : Approval :=
  match t.unread with
  | some line :: _ => .ofAnswer line
  | none :: _ => .no
  | [] => .no

/-- The terminal after a line was read. -/
def advance (t : Terminal) : Terminal := ⟨t.unread.drop 1⟩

end Terminal

instance : Approver Terminal where
  ask t _ _ := (t.answer, t.advance)

/-! ### A session reads from the front -/

namespace Session

variable {τ μ π : Type}

theorem approver_send [ChatModel μ] (s : Session τ μ Terminal) (r : ChatRequest) :
    (s.send r).2.approver = s.approver := rfl

theorem approver_converse [ChatModel μ] (s : Session τ μ Terminal) :
    s.converse.2.approver = s.approver := by
  unfold converse
  split
  · rfl
  · split <;> next h => exact congrArg (·.2.approver) h.symm

theorem approver_of_converse [ChatModel μ] {s t : Session τ μ Terminal} {r : Except Error Response}
    (h : s.converse = (r, t)) : t.approver = s.approver := by
  rw [← approver_converse s, h]

theorem approver_answer {s t : Session τ μ Terminal} {m : AssistantMessage}
    (h : s.answer m = .ok t) :
    t.approver = s.approver := by
  unfold answer at h
  cases hc : s.conversation.answer m with
  | error e => simp [hc, Except.map] at h
  | ok c =>
    simp only [hc, Except.map, Except.ok.injEq] at h
    rw [← h]

variable [Workbench τ π]

/-- Asking reads lines from the front. -/
theorem unread_askEach (trusted : List String) (cs : List Candidate) (s : Session τ μ Terminal) :
    (askEach trusted cs s).2.approver.unread <:+ s.approver.unread := by
  induction cs generalizing trusted s with
  | nil => exact List.suffix_refl _
  | cons c rest ih =>
    unfold askEach
    split
    · exact ih _ _
    · split
      · exact ih _ _
      · have asked {a : Approval} {t : Session τ μ Terminal} {tool : Tool}
            (h : s.ask c.use (Workbench.describe s.workbench tool) = (a, t)) :
            t.approver.unread <:+ s.approver.unread := by
          have : t.approver.unread = s.approver.unread.drop 1 :=
            congrArg (·.2.approver.unread) h.symm
          exact this ▸ List.drop_suffix 1 _
        split
        · next h => exact (ih _ _).trans (asked h)
        · next h => exact (ih _ _).trans (asked h)
        · next h => exact asked h

theorem approver_invokeEach (cs : List Candidate) (s : Session τ μ Terminal) :
    (invokeEach cs s).2.approver = s.approver := by
  induction cs generalizing s with
  | nil => rfl
  | cons c rest ih =>
    unfold invokeEach
    split
    · exact ih s
    · exact ih _

theorem unread_runBatch (uses : List ToolUse) (s : Session τ μ Terminal) :
    (s.runBatch uses).2.approver.unread <:+ s.approver.unread := by
  have h := unread_askEach [] (uses.map (Candidate.ofUse s.workbench)) s
  simp only [runBatch]
  split
  · next he => simpa [he] using h
  · next he => simpa [he, approver_invokeEach] using h

theorem approver_closeAtLimit {s t : Session τ μ Terminal} {uses : List ToolUse} {rounds : Nat}
    (h : s.closeAtLimit uses rounds = .ok t) : t.approver = s.approver := by
  unfold closeAtLimit at h
  exact (approver_answer h).trans rfl

variable [ChatModel μ]

theorem unread_continueTurn (t : Turn) (s : Session τ μ Terminal) :
    (s.continueTurn t).2.approver.unread <:+ s.approver.unread := by
  fun_induction continueTurn t s with
  | case1 _ _ _ _ hc => simp [approver_of_converse hc]
  | case2 _ _ _ _ hc => simp [approver_of_converse hc]
  | case3 _ _ _ _ hc _ _ ha => simp [approver_answer ha, approver_of_converse hc]
  | case4 _ _ _ _ hc => simp [approver_of_converse hc]
  | case5 _ _ r _ hc _ s ha _ _ _ hb ih =>
    have batch := unread_runBatch r.toolUses s
    rw [hb, approver_answer ha, approver_of_converse hc] at batch
    exact ih.trans batch
  | case6 _ _ _ _ hc _ _ ha => simp [approver_answer ha, approver_of_converse hc]
  | case7 _ _ _ _ hc _ _ ha _ _ hl =>
    simp [approver_closeAtLimit hl, approver_answer ha, approver_of_converse hc]

/-- A turn reads lines from the front. -/
theorem unread_process (input : String) (s : Session τ μ Terminal) :
    (s.process input).2.approver.unread <:+ s.approver.unread :=
  unread_continueTurn _ _

end Session

end ToolAgent
