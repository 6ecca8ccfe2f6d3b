import ToolAgent.Server.Router

/-!
# Where a request stands

The router is one state that all requests share with the reader. This module takes it apart:
`Router.phase` is where a single request stands, and `phase_step` says that a happening moves each
request by a rule that looks at nothing of the others (`Router.move`). Whatever order things happen
in, a request therefore only sees what is meant for it.

`Router.Sound` is what makes this work: every request that has begun is in exactly one place, once:
pending, among the mail, or returned. `sound_run` says that it always holds.
-/

namespace ToolAgent

/-! ## A request by itself -/

/-- Where a request stands. -/
inductive Phase
  /-- It has not begun. -/
  | unborn
  /-- It has neither returned nor got anything. -/
  | waiting
  /-- Something was handed to it that it has not taken yet. -/
  | handed (content : Option Rpc.Reply)
  | returned (fate : Fate)
deriving DecidableEq, Repr

namespace Phase

/-- The request begins. -/
def start : Phase → Phase
  | unborn => waiting
  | p => p

/-- Something is handed to the request; only a waiting one can take it. -/
def hand (content : Option Rpc.Reply) : Phase → Phase
  | waiting => handed content
  | p => p

/-- Writing the request has failed. -/
def fail (reason : String) : Phase → Phase
  | unborn => unborn
  | returned fate => returned fate
  | _ => returned (.notWritten reason)

/-- The request takes what was handed to it. -/
def take : Phase → Phase
  | handed content => returned (.ofMail content)
  | p => p

/-- The time of the request is over. -/
def expire : Phase → Phase
  | waiting => returned .timedOut
  | p => p.take

/-- Nothing has become of the request yet. -/
def Fresh (p : Phase) : Prop := p = unborn ∨ p = waiting

/-- What can become of a request that this was handed to: it has not taken it yet, it has returned
with it, or writing the request failed. -/
def Got (content : Option Rpc.Reply) (p : Phase) : Prop :=
  p = handed content ∨ p = returned (.ofMail content) ∨ ∃ reason, p = returned (.notWritten reason)

theorem Got.not_fresh {content : Option Rpc.Reply} {p : Phase} (h : p.Got content) :
    ¬ p.Fresh := by
  rcases h with rfl | rfl | ⟨_, rfl⟩ <;> rintro (h | h) <;> cases h

end Phase

/-- A request returned so although nothing was handed to it. -/
def Fate.Unanswered (fate : Fate) : Prop := fate = .timedOut ∨ ∃ reason, fate = .notWritten reason

namespace Router

/-- Where a request stands in a router. -/
def phase (r : Router) (id : Nat) : Phase :=
  match r.fate? id with
  | some fate => .returned fate
  | none =>
    match r.mail.lookup id with
    | some content => .handed content
    | none => if r.isPending id then .waiting else .unborn

/-- What one happening does to one request. -/
def move (r : Router) (id : Nat) (p : Phase) : Signal → Phase
  | .begin => if r.nextId = id then p.start else p
  | .writeFailed other reason => if other = id then p.fail reason else p
  | .line text =>
    if r.closed then p
    else match Rpc.Incoming.ofLine text with
      | .reply other content => if other = id then p.hand content else p
      | .other => p
  | .look other => if other = id then p.take else p
  | .expire other => if other = id then p.expire else p
  | .close => if r.closed then p else p.hand none

/-! ## Each request in one place -/

/-- In how many places a request stands. -/
def places (r : Router) (id : Nat) : Nat :=
  r.pending.count id + (r.mail.map (·.1)).count id + (r.returned.map (·.1)).count id

/-- Every request that has begun stands in one place, and no other request stands anywhere. -/
def Sound (r : Router) : Prop := ∀ id, r.places id = if id < r.nextId then 1 else 0

theorem count_filter_ne (ids : List Nat) (id a : Nat) :
    (ids.filter (· ≠ id)).count a = if a = id then 0 else ids.count a := by
  split
  · next h =>
      subst h
      simp [List.count_eq_zero]
  · next h => exact List.count_filter (by simpa using h)

theorem map_filter_ne (mail : List (Nat × Option Rpc.Reply)) (id : Nat) :
    (mail.filter (·.1 ≠ id)).map (·.1) = (mail.map (·.1)).filter (· ≠ id) := by
  rw [List.filter_map]
  rfl

theorem lookup_filter_ne (mail : List (Nat × Option Rpc.Reply)) (id a : Nat) :
    (mail.filter (·.1 ≠ id)).lookup a = if a = id then none else mail.lookup a := by
  induction mail with
  | nil => simp
  | cons first rest ih =>
      obtain ⟨k, content⟩ := first
      by_cases hk : k = id
      · subst hk
        rw [List.filter_cons_of_neg (by simp), ih]
        by_cases ha : a = k
        · rw [if_pos ha, if_pos ha]
        · rw [if_neg ha, if_neg ha, List.lookup_cons, beq_eq_false_iff_ne.mpr ha]
      · rw [List.filter_cons_of_pos (by simpa using hk), List.lookup_cons, List.lookup_cons, ih]
        by_cases ha : a = k
        · have hne : a ≠ id := fun h => hk (ha ▸ h)
          rw [beq_iff_eq.mpr ha, if_neg hne, if_neg hne]
        · rw [beq_eq_false_iff_ne.mpr ha]

theorem count_pos_of_lookup {α : Type} {entries : List (Nat × α)} {id : Nat} {a : α}
    (h : entries.lookup id = some a) : 0 < (entries.map (·.1)).count id := by
  obtain ⟨before, after, rfl, -⟩ := List.lookup_eq_some_iff.mp h
  exact List.count_pos_iff.mpr (by simp)

theorem count_of_lookup {α : Type} {entries : List (Nat × α)} {id : Nat}
    (h : entries.lookup id = none) : (entries.map (·.1)).count id = 0 := by
  apply List.count_eq_zero.mpr
  intro hmem
  obtain ⟨e, he, rfl⟩ := List.mem_map.mp hmem
  have := List.lookup_eq_none_iff.mp h e he
  simp at this

theorem lookup_of_count {α : Type} {entries : List (Nat × α)} {id : Nat}
    (h : (entries.map (·.1)).count id = 0) : entries.lookup id = none := by
  cases hlookup : entries.lookup id with
  | none => rfl
  | some a =>
      have := count_pos_of_lookup hlookup
      omega

theorem isPending_iff {r : Router} {id : Nat} : r.isPending id = true ↔ 0 < r.pending.count id := by
  rw [isPending, List.contains_iff_mem, List.count_pos_iff]

theorem lookup_concat_self {α : Type} {entries : List (Nat × α)} {id : Nat} (a : α)
    (h : entries.lookup id = none) : (entries ++ [(id, a)]).lookup id = some a := by
  simp [List.lookup_append, h]

theorem lookup_concat_of_ne {α : Type} (entries : List (Nat × α)) {id other : Nat} (a : α)
    (h : other ≠ id) : (entries ++ [(id, a)]).lookup other = entries.lookup other := by
  rw [List.lookup_append, List.lookup_cons, beq_eq_false_iff_ne.mpr h, List.lookup_nil,
    Option.or_none]

section Places

variable {r : Router} {id : Nat}

/-- A request that can still return has not returned. -/
theorem Sound.unreturned (h : r.Sound)
    (hid : r.isPending id = true ∨ (r.mail.lookup id).isSome = true) :
    r.pending.count id + (r.mail.map (·.1)).count id = 1 ∧
      (r.returned.map (·.1)).count id = 0 ∧ id < r.nextId := by
  have hplaces := h id
  have hpos : 0 < r.pending.count id + (r.mail.map (·.1)).count id := by
    rcases hid with hpending | hmail
    · have := isPending_iff.mp hpending
      omega
    · obtain ⟨content, hlookup⟩ := Option.isSome_iff_exists.mp hmail
      have := count_pos_of_lookup hlookup
      omega
  unfold places at hplaces
  split at hplaces
  · next hlt => exact ⟨by omega, by omega, hlt⟩
  · omega

theorem Sound.finish (h : r.Sound)
    (hid : r.isPending id = true ∨ (r.mail.lookup id).isSome = true) (fate : Fate) :
    (r.finish id fate).Sound := by
  intro a
  obtain ⟨-, hreturned, hlt⟩ := h.unreturned hid
  have hplaces := h a
  unfold places at hplaces ⊢
  simp only [Router.finish, withoutPending, map_filter_ne, count_filter_ne, List.map_append,
    List.count_append, List.map_cons, List.map_nil, List.count_singleton]
  by_cases ha : a = id
  · subst ha
    simp [hreturned, hlt]
  · simp only [if_neg ha, beq_iff_eq, Ne.symm ha, if_false]
    exact hplaces

theorem Sound.deliver (h : r.Sound) (hid : r.isPending id = true) (content : Option Rpc.Reply) :
    (r.deliver id content).Sound := by
  intro a
  obtain ⟨hone, hreturned, hlt⟩ := h.unreturned (.inl hid)
  have hpending := isPending_iff.mp hid
  have hplaces := h a
  unfold places at hplaces ⊢
  simp only [Router.deliver, withoutPending, count_filter_ne, List.map_append, List.count_append,
    List.map_cons, List.map_nil, List.count_singleton]
  by_cases ha : a = id
  · subst ha
    have hmail : (r.mail.map (·.1)).count a = 0 := by omega
    simp [hreturned, hlt, hmail]
  · simp only [if_neg ha, beq_iff_eq, Ne.symm ha, if_false]
    exact hplaces

/-- **One happening keeps each request in one place.** -/
theorem Sound.step (h : r.Sound) (signal : Signal) : (r.step signal).Sound := by
  cases signal with
  | begin =>
      -- The number that is given out has been in no place so far.
      intro a
      have hplaces := h a
      unfold places at hplaces ⊢
      simp only [Router.step, List.count_append, List.count_singleton, beq_iff_eq]
      grind
  | writeFailed id reason =>
      simp only [Router.step]
      split
      · next hid => exact h.finish (by simpa using hid) _
      · exact h
  | line text =>
      simp only [Router.step]
      split
      · exact h
      · split
        · split
          · next hid => exact h.deliver hid _
          · exact h
        · exact h
  | look id =>
      simp only [Router.step]
      split
      · next content hmail => exact h.finish (.inr (by rw [hmail]; rfl)) _
      · exact h
  | expire id =>
      simp only [Router.step]
      split
      · next content hmail => exact h.finish (.inr (by rw [hmail]; rfl)) _
      · split
        · next hid => exact h.finish (.inl hid) _
        · exact h
  | close =>
      simp only [Router.step]
      split
      · exact h
      · -- What was pending has the news of the end now: each number goes to another place.
        intro a
        have hplaces := h a
        unfold places at hplaces ⊢
        simp only [List.map_append, List.map_map, Function.comp_def, List.map_id', List.count_nil,
          List.count_append]
        omega

theorem sound_start : start.Sound := by
  intro id
  rfl

theorem sound_run (h : r.Sound) (signals : List Signal) : (r.run signals).Sound := by
  induction signals generalizing r with
  | nil => exact h
  | cons signal rest ih => exact ih (h.step signal)

end Places

/-! ## One request at a time -/

/-- What a router holds of a request that stands at a phase. -/
inductive Stands (r : Router) (id : Nat) : Phase → Prop
  | unborn : r.isPending id = false → r.mail.lookup id = none → r.fate? id = none →
      Stands r id .unborn
  | waiting : r.isPending id = true → r.mail.lookup id = none → r.fate? id = none →
      Stands r id .waiting
  | handed {content} : r.isPending id = false → r.mail.lookup id = some content →
      r.fate? id = none → Stands r id (.handed content)
  | returned {fate} : r.isPending id = false → r.mail.lookup id = none → r.fate? id = some fate →
      Stands r id (.returned fate)

section Phases

variable {r : Router} {id : Nat}

theorem Stands.phase_eq {p : Phase} (h : r.Stands id p) : r.phase id = p := by
  unfold phase
  cases h with
  | unborn hpending hmail hfate => simp [hpending, hmail, hfate]
  | waiting hpending hmail hfate => simp [hpending, hmail, hfate]
  | handed _ hmail hfate => simp [hmail, hfate]
  | returned _ _ hfate => simp [hfate]

/-- In a sound router a request is held in no other way than its phase says. -/
theorem Sound.stands (h : r.Sound) (id : Nat) : r.Stands id (r.phase id) := by
  have hplaces := h id
  unfold places at hplaces
  have hle : r.pending.count id + (r.mail.map (·.1)).count id +
      (r.returned.map (·.1)).count id ≤ 1 := by
    rw [hplaces]
    split <;> omega
  have hpending : 0 < (r.mail.map (·.1)).count id + (r.returned.map (·.1)).count id →
      r.isPending id = false := by
    intro hpos
    refine Bool.eq_false_iff.mpr fun htrue => ?_
    have := isPending_iff.mp htrue
    omega
  unfold phase
  cases hfate : r.fate? id with
  | some fate =>
      have hcount := count_pos_of_lookup hfate
      exact .returned (hpending (by omega)) (lookup_of_count (by omega)) hfate
  | none =>
      cases hmail : r.mail.lookup id with
      | some content =>
          have hcount := count_pos_of_lookup hmail
          exact .handed (hpending (by omega)) hmail hfate
      | none =>
          cases hwaits : r.isPending id with
          | true => exact .waiting hwaits hmail hfate
          | false => exact .unborn hwaits hmail hfate

theorem phase_eq_waiting_iff (h : r.Sound) : r.phase id = .waiting ↔ r.isPending id = true := by
  have hstands := h.stands id
  generalize r.phase id = p at hstands ⊢
  cases hstands with
  | waiting hpending _ _ => simp [hpending]
  | unborn hpending _ _ => simp [hpending]
  | handed hpending _ _ => simp [hpending]
  | returned hpending _ _ => simp [hpending]

theorem isPending_withoutPending (r : Router) (id a : Nat) :
    (r.withoutPending id).isPending a = if a = id then false else r.isPending a := by
  simp only [isPending, withoutPending, List.contains_eq_mem, List.mem_filter]
  split
  · next h => simp [h]
  · next h => simp [h]

theorem stands_finish (hfate : r.fate? id = none) (fate : Fate) :
    (r.finish id fate).Stands id (.returned fate) := by
  refine .returned ?_ ?_ ?_
  · exact (isPending_withoutPending r id id).trans (if_pos rfl)
  · exact (lookup_filter_ne r.mail id id).trans (if_pos rfl)
  · exact lookup_concat_self fate hfate

/-- Where a request stands is told by what the router holds of it. -/
theorem phase_congr {r' : Router} (hfate : r'.fate? id = r.fate? id)
    (hmail : r'.mail.lookup id = r.mail.lookup id) (hpending : r'.isPending id = r.isPending id) :
    r'.phase id = r.phase id := by
  rw [phase, phase, hfate, hmail, hpending]

theorem phase_finish_of_ne {a : Nat} (h : a ≠ id) (fate : Fate) :
    (r.finish id fate).phase a = r.phase a := by
  apply phase_congr
  · exact lookup_concat_of_ne _ _ h
  · exact (lookup_filter_ne r.mail id a).trans (if_neg h)
  · exact (isPending_withoutPending r id a).trans (if_neg h)

theorem stands_deliver (hmail : r.mail.lookup id = none) (hfate : r.fate? id = none)
    (content : Option Rpc.Reply) : (r.deliver id content).Stands id (.handed content) := by
  refine .handed ?_ ?_ hfate
  · exact (isPending_withoutPending r id id).trans (if_pos rfl)
  · exact lookup_concat_self content hmail

theorem phase_deliver_of_ne {a : Nat} (h : a ≠ id) (content : Option Rpc.Reply) :
    (r.deliver id content).phase a = r.phase a := by
  apply phase_congr
  · rfl
  · exact lookup_concat_of_ne _ _ h
  · exact (isPending_withoutPending r id a).trans (if_neg h)

theorem lookup_map_none (ids : List Nat) (a : Nat) :
    (ids.map fun id => (id, (none : Option Rpc.Reply))).lookup a =
      if ids.contains a then some none else none := by
  induction ids with
  | nil => rfl
  | cons first rest ih =>
      rw [List.map_cons, List.lookup_cons, List.contains_cons, ih]
      cases a == first <;> rfl

/-! ### One happening at a time -/

theorem phase_begin (h : r.Sound) (id : Nat) :
    (r.step .begin).phase id = r.move id (r.phase id) .begin := by
  simp only [move]
  split
  · next hid =>
      -- The number is new, so the router holds nothing of the request.
      have hfresh := h id
      unfold places at hfresh
      rw [if_neg (by omega)] at hfresh
      have hmail : r.mail.lookup id = none := lookup_of_count (by omega)
      have hfate : r.fate? id = none := lookup_of_count (by omega)
      have hunborn : r.phase id = .unborn := by
        refine Stands.phase_eq (.unborn (Bool.eq_false_iff.mpr fun htrue => ?_) hmail hfate)
        have := isPending_iff.mp htrue
        omega
      rw [hunborn]
      refine Stands.phase_eq (.waiting ?_ hmail hfate)
      simp [Router.step, isPending, hid]
  · next hid =>
      apply phase_congr
      · rfl
      · rfl
      · simp [Router.step, isPending, Ne.symm hid]

theorem phase_writeFailed (h : r.Sound) (id other : Nat) (reason : String) :
    (r.step (.writeFailed other reason)).phase id =
      r.move id (r.phase id) (.writeFailed other reason) := by
  have hstands := h.stands id
  simp only [Router.step, move]
  by_cases hid : other = id
  · subst hid
    rw [if_pos rfl]
    generalize r.phase other = p at hstands ⊢
    have hkept := hstands
    cases hstands with
    | unborn hpending hmail hfate =>
        rw [if_neg (by simp [hpending, hmail])]
        exact hkept.phase_eq
    | waiting hpending hmail hfate =>
        rw [if_pos (by simp [hpending])]
        exact (stands_finish hfate _).phase_eq
    | handed hpending hmail hfate =>
        rw [if_pos (by simp [hmail])]
        exact (stands_finish hfate _).phase_eq
    | returned hpending hmail hfate =>
        rw [if_neg (by simp [hpending, hmail])]
        exact hkept.phase_eq
  · rw [if_neg hid]
    split
    · exact phase_finish_of_ne (Ne.symm hid) _
    · rfl

/-- A reply is handed to the request that it names, if that waits. -/
theorem phase_reply (h : r.Sound) (id other : Nat) (content : Option Rpc.Reply) :
    (if r.isPending other then r.deliver other content else r).phase id =
      if other = id then (r.phase id).hand content else r.phase id := by
  have hstands := h.stands id
  by_cases hid : other = id
  · subst hid
    rw [if_pos rfl]
    generalize r.phase other = p at hstands ⊢
    have hkept := hstands
    cases hstands with
    | waiting hpending hmail hfate =>
        rw [if_pos hpending]
        exact (stands_deliver hmail hfate content).phase_eq
    | unborn hpending _ _ =>
        rw [if_neg (by simp [hpending])]
        exact hkept.phase_eq
    | handed hpending _ _ =>
        rw [if_neg (by simp [hpending])]
        exact hkept.phase_eq
    | returned hpending _ _ =>
        rw [if_neg (by simp [hpending])]
        exact hkept.phase_eq
  · rw [if_neg hid]
    split
    · exact phase_deliver_of_ne (Ne.symm hid) _
    · rfl

theorem phase_look (h : r.Sound) (id other : Nat) :
    (r.step (.look other)).phase id = r.move id (r.phase id) (.look other) := by
  have hstands := h.stands id
  simp only [Router.step, move]
  by_cases hid : other = id
  · subst hid
    rw [if_pos rfl]
    generalize r.phase other = p at hstands ⊢
    have hkept := hstands
    cases hstands with
    | handed _ hmail hfate =>
        rw [hmail]
        exact (stands_finish hfate _).phase_eq
    | unborn _ hmail _ => rw [hmail]; exact hkept.phase_eq
    | waiting _ hmail _ => rw [hmail]; exact hkept.phase_eq
    | returned _ hmail _ => rw [hmail]; exact hkept.phase_eq
  · rw [if_neg hid]
    split
    · exact phase_finish_of_ne (Ne.symm hid) _
    · rfl

theorem phase_expire (h : r.Sound) (id other : Nat) :
    (r.step (.expire other)).phase id = r.move id (r.phase id) (.expire other) := by
  have hstands := h.stands id
  simp only [Router.step, move]
  by_cases hid : other = id
  · subst hid
    rw [if_pos rfl]
    generalize r.phase other = p at hstands ⊢
    have hkept := hstands
    cases hstands with
    | handed _ hmail hfate =>
        rw [hmail]
        exact (stands_finish hfate _).phase_eq
    | waiting hpending hmail hfate =>
        simp only [hmail, hpending, if_true]
        exact (stands_finish hfate _).phase_eq
    | unborn hpending hmail _ =>
        simp only [hmail, hpending]
        exact hkept.phase_eq
    | returned hpending hmail _ =>
        simp only [hmail, hpending]
        exact hkept.phase_eq
  · rw [if_neg hid]
    split
    · exact phase_finish_of_ne (Ne.symm hid) _
    · split
      · exact phase_finish_of_ne (Ne.symm hid) _
      · rfl

/-- The end of the output is told to every request that waits, and to no other. -/
theorem phase_close (h : r.Sound) (hopen : r.closed = false) (id : Nat) :
    (r.step .close).phase id = (r.phase id).hand none := by
  have hstands := h.stands id
  have hclose : r.step .close = { r with
      pending := []
      mail := r.mail ++ r.pending.map fun id => (id, none)
      closed := true } := by
    simp only [Router.step, hopen, Bool.false_eq_true, if_false]
  rw [hclose]
  generalize r.phase id = p at hstands ⊢
  -- Only the requests that wait are told; the mail of the others stands before theirs.
  have hmail : ∀ rest : List (Nat × Option Rpc.Reply),
      (r.mail ++ rest).lookup id = (r.mail.lookup id).or (rest.lookup id) :=
    fun rest => List.lookup_append
  cases hstands with
  | unborn hpending hnone hfate =>
      refine Stands.phase_eq (.unborn rfl ?_ hfate)
      rw [hmail, hnone, lookup_map_none]
      exact if_neg (by simpa [isPending] using hpending)
  | waiting hpending hnone hfate =>
      refine Stands.phase_eq (.handed rfl ?_ hfate)
      rw [hmail, hnone, lookup_map_none]
      exact if_pos hpending
  | handed hpending hsome hfate =>
      refine Stands.phase_eq (.handed rfl ?_ hfate)
      rw [hmail, hsome]
      rfl
  | returned hpending hnone hfate =>
      refine Stands.phase_eq (.returned rfl ?_ hfate)
      rw [hmail, hnone, lookup_map_none]
      exact if_neg (by simpa [isPending] using hpending)

/-- **Each request is moved by itself.** What a happening does to a request is told by where the
request stands, and by nothing that the router holds of other requests. -/
theorem phase_step (h : r.Sound) (id : Nat) (signal : Signal) :
    (r.step signal).phase id = r.move id (r.phase id) signal := by
  cases signal with
  | begin => exact phase_begin h id
  | writeFailed other reason => exact phase_writeFailed h id other reason
  | look other => exact phase_look h id other
  | expire other => exact phase_expire h id other
  | line text =>
      simp only [Router.step, move]
      split
      · rfl
      · cases Rpc.Incoming.ofLine text with
        | other => rfl
        | reply other content => exact phase_reply h id other content
  | close =>
      rw [move]
      cases hclosed : r.closed with
      | true => simp only [Router.step, hclosed, if_true]
      | false => exact phase_close h hclosed id

end Phases

end Router

end ToolAgent
