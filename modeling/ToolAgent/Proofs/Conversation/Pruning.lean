import ToolAgent.Proofs.Conversation.Operations

/-!
# What an answer leaves of the history

The history may be cut only in front of a block. An answer adds its exchange and cuts the history to
the longest end that is within the bound, or to the newest block if that is too long by itself.

* `CutTo` — the ends that a history may be cut to. They are the history and the ends of what is left
  without its oldest block (`cutTo_iff`).
* `KeptWithin` — which of them is kept. `keptWithin_prune` says that pruning keeps it.
* `answer_prunes` — the whole effect of an answer.
-/

namespace ToolAgent

/-- The ends that a history may be cut to: all of it, or what begins with an exchange, not the first
one, that the user opens without results. -/
inductive CutTo (history : List Exchange) : List Exchange → Prop
  | all : CutTo history history
  | block {front e rest} : history = front ++ e :: rest → front ≠ [] → e.user.toolResults = [] →
      CutTo history (e :: rest)

/-- The end that is kept: the longest one of at most `bound` exchanges, or the shortest one of all
if none is that short. -/
structure KeptWithin (bound : Nat) (history kept : List Exchange) : Prop where
  cut : CutTo history kept
  choice :
    (kept.length ≤ bound ∧
      ∀ other, CutTo history other → other.length ≤ bound → other.length ≤ kept.length) ∨
    ∀ other, CutTo history other → bound < other.length ∧ kept.length ≤ other.length

theorem CutTo.suffix {history kept : List Exchange} (h : CutTo history kept) :
    kept <:+ history := by
  cases h with
  | all => exact List.suffix_refl _
  | block hsplit _ _ => exact ⟨_, hsplit.symm⟩

/-- What a proper end may be cut to, the history may be cut to, if a block begins there. -/
theorem CutTo.of_suffix {history front later kept : List Exchange}
    (hsplit : history = front ++ later) (hfront : front ≠ [])
    (hopening : ∀ e ∈ later.head?, e.user.toolResults = [])
    (hlater : later ≠ []) (h : CutTo later kept) : CutTo history kept := by
  cases h with
  | all =>
      obtain ⟨e, rest, rfl⟩ := List.exists_cons_of_ne_nil hlater
      exact .block hsplit hfront (hopening e rfl)
  | @block between e rest hrest _ hnone =>
      have hwhole : history = (front ++ between) ++ e :: rest := by
        rw [hsplit, hrest, List.append_assoc]
      exact .block hwhole (List.append_ne_nil_of_left_ne_nil hfront between) hnone

/-- **Where a history may be cut**: nowhere, or where it may be cut without its oldest block. -/
theorem cutTo_iff {history kept : List Exchange} :
    CutTo history kept ↔
      kept = history ∨ ∃ later ∈ Conversation.dropBlock? history, CutTo later kept := by
  constructor
  · intro h
    cases h with
    | all => exact .inl rfl
    | @block front e rest hsplit hfront hnone =>
        right
        obtain ⟨oldest, between, rfl⟩ := List.exists_cons_of_ne_nil hfront
        have he : (e :: rest).dropWhile (·.user.hasResults) = e :: rest :=
          List.dropWhile_cons_of_neg (by simp [UserMessage.hasResults, hnone])
        rw [hsplit, List.cons_append, Conversation.dropBlock?, List.dropWhile_append, he]
        -- The second block begins at `e`, or somewhere before it.
        cases hbetween : between.dropWhile (·.user.hasResults) with
        | nil => exact ⟨e :: rest, rfl, .all⟩
        | cons first others =>
            exact ⟨first :: others ++ e :: rest, rfl, .block rfl (List.cons_ne_nil _ _) hnone⟩
  · rintro (rfl | ⟨later, hdrop, hcut⟩)
    · exact .all
    · obtain ⟨⟨front, hsplit⟩, hlater, hopening⟩ := dropBlock?_eq_some hdrop
      refine hcut.of_suffix hsplit.symm ?_ hopening hlater
      rintro rfl
      have hshorter := Conversation.length_of_dropBlock? hdrop
      rw [← hsplit, List.nil_append] at hshorter
      exact Nat.lt_irrefl _ hshorter

/-- **Pruning keeps the longest end within the bound**, or the newest block. -/
theorem keptWithin_prune (bound : Nat) (history : List Exchange) :
    KeptWithin bound history (Conversation.prune bound history) := by
  fun_induction Conversation.prune bound history with
  | case1 history hshort =>
      refine ⟨.all, .inl ⟨hshort, ?_⟩⟩
      intro other hother _
      exact hother.suffix.length_le
  | case2 history hlong hdrop =>
      -- Nothing may be cut off.
      refine ⟨.all, .inr ?_⟩
      intro other hother
      rcases cutTo_iff.mp hother with rfl | ⟨later, hlater, -⟩
      · exact ⟨Nat.lt_of_not_le hlong, Nat.le_refl _⟩
      · rw [hdrop] at hlater
        cases hlater
  | case3 history hlong later hdrop ih =>
      have hcut : CutTo history (Conversation.prune bound later) :=
        cutTo_iff.mpr (.inr ⟨later, hdrop, ih.cut⟩)
      have hothers : ∀ other, CutTo history other → other = history ∨ CutTo later other := by
        intro other hother
        refine (cutTo_iff.mp hother).imp_right ?_
        rintro ⟨found, hfound, hother⟩
        obtain rfl : later = found := Option.some.inj (hdrop.symm.trans hfound)
        exact hother
      refine ⟨hcut, ih.choice.imp ?_ ?_⟩
      · rintro ⟨hshort, hlongest⟩
        refine ⟨hshort, fun other hother hbound => ?_⟩
        rcases hothers other hother with rfl | hother
        · exact absurd hbound hlong
        · exact hlongest other hother hbound
      · intro hshortest other hother
        rcases hothers other hother with rfl | hother
        · exact ⟨Nat.lt_of_not_le hlong, hcut.suffix.length_le⟩
        · exact hshortest other hother

/-- Only a history that is one block is longer than the bound. -/
theorem KeptWithin.toolResults_ne_nil {bound : Nat} {history kept : List Exchange}
    (h : KeptWithin bound history kept) (hlong : bound < kept.length) :
    ∀ e ∈ kept.tail, e.user.toolResults ≠ [] := by
  intro e he hnone
  have hshortest : ∀ other, CutTo history other → kept.length ≤ other.length := by
    rcases h.choice with ⟨hshort, -⟩ | hshortest
    · exact absurd hshort (Nat.not_le_of_lt hlong)
    · exact fun other hother => (hshortest other hother).2
  -- A block that began at `e` would be a shorter end.
  cases kept with
  | nil => cases he
  | cons oldest later =>
      obtain ⟨between, rest, rfl⟩ := List.append_of_mem he
      obtain ⟨front, hfront⟩ := h.cut.suffix
      have hsplit : history = (front ++ oldest :: between) ++ e :: rest := by
        rw [← hfront]
        simp
      have hlength := hshortest _ (.block hsplit (by simp) hnone)
      simp only [List.length_cons, List.length_append] at hlength
      omega

namespace Conversation

theorem bound_apply (c : Conversation) (op : Operation) : (c.apply op).bound = c.bound := by
  cases op with
  | answer message =>
      rw [apply, answer]
      cases c.pending <;> rfl
  | _ => rfl

/-- The bound is set once and for all, and it is never zero. -/
theorem bound_of_mem_states (id : String) (limit : Nat) (tools : List ToolSpec)
    (ops : List Operation) :
    ∀ now ∈ (start id limit tools).states ops, now.bound = max 1 limit := by
  suffices hkept : ∀ c : Conversation, ∀ now ∈ c.states ops, now.bound = c.bound by
    intro now hnow
    exact (hkept _ now hnow).trans (Nat.max_comm limit 1)
  induction ops with
  | nil =>
      intro c now hnow
      rw [List.mem_singleton.mp hnow]
  | cons op rest ih =>
      intro c now hnow
      rw [states_cons] at hnow
      rcases List.mem_cons.mp hnow with rfl | hnow
      · rfl
      · exact (ih _ now hnow).trans (bound_apply c op)

/-- **The effect of an answer.** It takes the pending message, adds the exchange to the history, and
leaves of that the longest end within the bound that begins a block, or the newest block: the new
exchange stays, the order is kept, and the history is too long only if it is a single block. Where
nothing is pending the answer is refused and changes nothing. The bound is the one that the
conversation was begun with, and at least one. -/
theorem answer_prunes (c : Conversation) (message : AssistantMessage) :
    (match c.pending with
    | none =>
      c.answer message =
          .error (.conversation "assistant message pushed without a pending user message") ∧
        c.apply (.answer message) = c
    | some user =>
      ∃ kept, c.answer message = .ok { c with history := kept, pending := none } ∧
        KeptWithin c.bound (c.history ++ [⟨user, message⟩]) kept ∧
        kept <:+ c.history ++ [⟨user, message⟩] ∧
        kept.getLast? = some ⟨user, message⟩ ∧
        (c.bound < kept.length → ∀ e ∈ kept.tail, e.user.toolResults ≠ [])) ∧
    ∀ id limit tools ops, c ∈ (start id limit tools).states ops → c.bound = max 1 limit := by
  refine ⟨?_, fun id limit tools ops => bound_of_mem_states id limit tools ops c⟩
  cases hpending : c.pending with
  | none =>
      have hrefused : c.answer message =
          .error (.conversation "assistant message pushed without a pending user message") := by
        rw [answer, hpending]
      exact ⟨hrefused, by rw [apply, hrefused]⟩
  | some user =>
      have hkept := keptWithin_prune c.bound (c.history ++ [⟨user, message⟩])
      refine ⟨_, by rw [answer, hpending], hkept, hkept.cut.suffix, ?_, hkept.toolResults_ne_nil⟩
      rw [getLast?_prune, List.getLast?_concat]

end Conversation

end ToolAgent
