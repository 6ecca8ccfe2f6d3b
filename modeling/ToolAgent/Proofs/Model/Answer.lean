import Mathlib.Data.List.Forall2
import ToolAgent.Proofs.Model.Collecting
import ToolAgent.Proofs.Model.Messages
import ToolAgent.Proofs.Text.Words

/-!
# What a streamed answer says

A body is lines, some of which are chunks. It is heard up to the first chunk that closes the answer,
by an error or because the answer is complete, or to its end if there is none; `collect_body` says
what it comes to.

* `decodeText_eq` — the events of a text are those of the chunks among its lines (`told`).
* `collectFrom_told` — chunks that leave the answer open add their texts and their tool calls.
-/

namespace ToolAgent

/-! ## Chunks -/

namespace Chunk

/-- Whether the answer is over with a chunk. -/
def closes (c : Chunk) : Bool := c.error.isSome || c.done

/-- The chunk that a line of a body is, if it is one. -/
def ofBodyLine? (line : List Char) : Option Chunk := ofLine? (Text.trimChars line)

/-- The chunks among the lines of a body. -/
def amongLines (lines : List (List Char)) : List Chunk := lines.filterMap ofBodyLine?

theorem amongLines_append (lines more : List (List Char)) :
    amongLines (lines ++ more) = amongLines lines ++ amongLines more :=
  List.filterMap_append ..

theorem amongLines_cons_of_some {line : List Char} {c : Chunk} (h : ofBodyLine? line = some c)
    (rest : List (List Char)) : amongLines (line :: rest) = c :: amongLines rest :=
  List.filterMap_cons_some h

/-- An empty line is no chunk. -/
theorem amongLines_concat_nil (lines : List (List Char)) :
    amongLines (lines ++ [[]]) = amongLines lines := by
  have hnone : ofBodyLine? [] = none := ofLine?_nil
  rw [amongLines_append, amongLines, amongLines, List.filterMap_cons_none hnone, List.filterMap_nil,
    List.append_nil]

/-- The texts of chunks that are shown. -/
def shownTexts (chunks : List Chunk) : List String := (chunks.map content).filter (· ≠ "")

theorem shownTexts_append (chunks more : List Chunk) :
    shownTexts (chunks ++ more) = shownTexts chunks ++ shownTexts more := by
  rw [shownTexts, List.map_append, List.filter_append]
  rfl

theorem closes_of_error {c : Chunk} {e : String} (h : c.error = some e) : c.closes = true := by
  rw [closes, h]
  rfl

theorem closes_of_no_error {c : Chunk} (h : c.error = none) : c.closes = c.done := by
  rw [closes, h]
  rfl

theorem error_of_not_closes {c : Chunk} (h : c.closes = false) : c.error = none := by
  cases herror : c.error with
  | none => rfl
  | some e =>
      rw [closes_of_error herror] at h
      cases h

end Chunk

/-- A tool use is a reported call, with the id that the backend gave it if it gave one. -/
structure ReportedCall.Made (call : ReportedCall) (use : ToolUse) : Prop where
  name : use.name = call.name
  args : use.args = call.args
  id : ∀ id, call.id = some id → use.id = id

/-- A response has the texts and the tool calls of these chunks, in order. -/
structure Response.Holds (response : Response) (chunks : List Chunk) : Prop where
  text : response.text = String.join (chunks.map Chunk.content)
  toolUses : List.Forall₂ ReportedCall.Made (chunks.flatMap Chunk.calls) response.toolUses

namespace Decoder

variable {d : Decoder}

theorem made_nameCalls (named : Nat) (calls : List ReportedCall) :
    List.Forall₂ ReportedCall.Made calls (nameCalls named calls).1 := by
  induction calls generalizing named with
  | nil => exact .nil
  | cons call calls ih =>
      unfold nameCalls
      cases hid : call.id with
      | some id => exact .cons ⟨rfl, rfl, fun _ h => Option.some.inj (hid.symm.trans h)⟩ (ih named)
      | none => exact .cons ⟨rfl, rfl, fun _ h => nomatch hid.symm.trans h⟩ (ih (named + 1))

/-! ## The events of chunks -/

/-- The events of chunks and of the end of the body after them. -/
def told (d : Decoder) : List Chunk → EventStream
  | [] => [.ok (.endStream none)]
  | c :: chunks =>
    (d.decodeChunk c).1 ++ if c.closes then [] else told (d.decodeChunk c).2 chunks

theorem finished_decodeChunk (d : Decoder) (c : Chunk) :
    (d.decodeChunk c).2.finished = c.closes := by
  cases herror : c.error with
  | some e => rw [decodeChunk_of_error herror, Chunk.closes_of_error herror]
  | none =>
      rw [Chunk.closes_of_no_error herror]
      cases hdone : c.done with
      | true => rw [decodeChunk_of_done herror hdone]
      | false => rw [decodeChunk_of_open herror hdone]

theorem decodeLine_of_open (h : d.finished = false) (line : List Char) :
    d.decodeLine line = match Chunk.ofBodyLine? line with
      | some c => d.decodeChunk c
      | none => ([], d) := by
  rw [decodeLine, if_neg (by rw [h]; exact Bool.false_ne_true)]
  rfl

theorem decodeLines_of_finished (h : d.finished = true) (lines : List (List Char)) :
    d.decodeLines lines = ([], d) := by
  induction lines with
  | nil => rfl
  | cons line lines ih =>
      rw [decodeLines, decodeLine_of_finished h]
      dsimp only
      rw [ih]
      rfl

/-- The events of lines are those of the chunks among them. -/
theorem decodeLines_eq_told (h : d.finished = false) (lines : List (List Char)) :
    (d.decodeLines lines).1 ++ (d.decodeLines lines).2.ending =
      d.told (Chunk.amongLines lines) := by
  induction lines generalizing d with
  | nil =>
      rw [decodeLines, ending, if_neg (by rw [h]; exact Bool.false_ne_true)]
      rfl
  | cons line lines ih =>
      rw [decodeLines, decodeLine_of_open h]
      cases hline : Chunk.ofBodyLine? line with
      | none =>
          rw [Chunk.amongLines, List.filterMap_cons_none hline]
          exact ih h
      | some c =>
          rw [Chunk.amongLines_cons_of_some hline, told]
          dsimp only
          rw [List.append_assoc]
          have hfinished := finished_decodeChunk d c
          cases hcloses : c.closes with
          | true =>
              rw [hcloses] at hfinished
              rw [decodeLines_of_finished hfinished, ending, if_pos hfinished]
              rfl
          | false =>
              rw [hcloses] at hfinished
              rw [ih hfinished, if_neg Bool.false_ne_true]

theorem decodeLines_singleton (d : Decoder) (line : List Char) :
    d.decodeLines [line] = d.decodeLine line := by
  rw [decodeLines]
  dsimp only
  rw [decodeLines, List.append_nil]

/-- **The events of a text** are those of the chunks among its lines. -/
theorem decodeText_eq (text : List Char) :
    decodeText text = start.told (Chunk.amongLines (text.splitOn '\n')) := by
  have hopen : start.finished = false := rfl
  rw [← decodeLines_eq_told hopen, List.splitOn_eq_splitOnP, Text.splitOnP_eq, decodeLines_append,
    decodeLines_singleton, decodeText, take]
  dsimp only
  -- The line that is not complete is decoded at the end of the body, after all others.
  rw [decodeLines_buffer, finish_eq]
  dsimp only
  rw [decodeLine_buffer, List.append_assoc]
  rfl

/-! ## What has been heard -/

theorem collectFrom_toolUses (sofar : Response) (uses : List ToolUse) (rest : EventStream) :
    collectFrom sofar ((uses.map Event.toolUse).map .ok ++ rest) =
      collectFrom { sofar with toolUses := sofar.toolUses ++ uses } rest := by
  induction uses generalizing sofar with
  | nil => simp
  | cons use uses ih =>
      rw [List.map_cons, List.map_cons, List.cons_append, collectFrom, ih]
      simp

/-- What a chunk that leaves the answer open adds. -/
theorem collectFrom_said (sofar : Response) (d : Decoder) (c : Chunk) (rest : EventStream) :
    collectFrom sofar ((d.said c).map .ok ++ rest) =
      let later := collectFrom { sofar with
        text := sofar.text ++ c.content
        toolUses := sofar.toolUses ++ (nameCalls d.named c.calls).1 } rest
      ⟨Chunk.shownTexts [c] ++ later.fragments, later.response⟩ := by
  have huses := fun sofar => collectFrom_toolUses sofar (nameCalls d.named c.calls).1 rest
  rw [said, List.map_append, List.append_assoc]
  by_cases hempty : c.content = ""
  · have hshown : Chunk.shownTexts [c] = [] := by simp [Chunk.shownTexts, hempty]
    rw [if_pos hempty, List.map_nil, List.nil_append, huses, hshown, hempty, String.append_empty]
    rfl
  · have hshown : Chunk.shownTexts [c] = [c.content] := by simp [Chunk.shownTexts, hempty]
    rw [if_neg hempty, List.map_singleton, List.singleton_append, collectFrom, if_neg hempty, huses,
      hshown]
    rfl

/-- Chunks that leave the answer open add their texts and their tool calls to what comes before, and
all goes on with the chunks after them. -/
theorem collectFrom_told {before : List Chunk} (hbefore : ∀ c ∈ before, c.closes = false)
    (sofar : Response) (d : Decoder) (chunks : List Chunk) :
    ∃ (uses : List ToolUse) (d' : Decoder),
      List.Forall₂ ReportedCall.Made (before.flatMap Chunk.calls) uses ∧
      collectFrom sofar (d.told (before ++ chunks)) =
        let later := collectFrom { sofar with
          text := sofar.text ++ String.join (before.map Chunk.content)
          toolUses := sofar.toolUses ++ uses } (d'.told chunks)
        ⟨Chunk.shownTexts before ++ later.fragments, later.response⟩ := by
  induction before generalizing sofar d with
  | nil => exact ⟨[], d, .nil, by simp [Chunk.shownTexts]⟩
  | cons c before ih =>
      obtain ⟨hc, hbefore⟩ := List.forall_mem_cons.mp hbefore
      have herror := Chunk.error_of_not_closes hc
      have hdone : c.done = false := (Chunk.closes_of_no_error herror).symm.trans hc
      -- The chunks behind this one go on from what the decoder knows after it.
      obtain ⟨uses, d', huses, hcollect⟩ := ih hbefore { sofar with
        text := sofar.text ++ c.content
        toolUses := sofar.toolUses ++ (nameCalls d.named c.calls).1 } (d.decodeChunk c).2
      refine ⟨(nameCalls d.named c.calls).1 ++ uses, d', ?_, ?_⟩
      · rw [List.flatMap_cons]
        exact List.rel_append (made_nameCalls d.named c.calls) huses
      · rw [List.cons_append, told, if_neg (by rw [hc]; exact Bool.false_ne_true),
          decodeChunk_of_open herror hdone, collectFrom_said]
        rw [decodeChunk_of_open herror hdone] at hcollect
        dsimp only at hcollect ⊢
        have hshown := Chunk.shownTexts_append [c] before
        rw [List.singleton_append] at hshown
        rw [hcollect, hshown, List.map_cons, String.join_cons]
        simp only [String.append_assoc, List.append_assoc]

/-! ## What a list of chunks comes to -/

theorem told_of_error {c : Chunk} {e : String} (h : c.error = some e) (d : Decoder)
    (rest : List Chunk) : d.told (c :: rest) = [.error (.transport e)] := by
  rw [told, if_pos (Chunk.closes_of_error h), decodeChunk_of_error h, List.append_nil]

theorem told_of_done {c : Chunk} (h : c.error = none) (hdone : c.done = true) (d : Decoder)
    (rest : List Chunk) :
    d.told (c :: rest) = (d.said c).map .ok ++ [.ok (.endStream (usage c))] := by
  rw [told, if_pos ((Chunk.closes_of_no_error h).trans hdone), decodeChunk_of_done h hdone,
    List.append_nil]

/-- What comes after a chunk that closes the answer has no effect. -/
theorem told_append_closing {c : Chunk} (h : c.closes = true) (d : Decoder)
    (before rest : List Chunk) : d.told (before ++ c :: rest) = d.told (before ++ [c]) := by
  induction before generalizing d with
  | nil => rw [List.nil_append, List.nil_append, told, told, if_pos h, if_pos h]
  | cons first before ih => rw [List.cons_append, List.cons_append, told, told, ih]

theorem usage_eq_some_iff {c : Chunk} {u : TokenUsage} :
    usage c = some u ↔ c.promptTokens = some u.prompt ∧
      c.completionTokens = some u.completion ∧ u.total = u.prompt + u.completion := by
  rw [usage]
  cases c.promptTokens with
  | none => simp
  | some prompt =>
      cases c.completionTokens with
      | none => simp
      | some completion =>
          simp only [Option.some.injEq]
          constructor
          · rintro rfl
            exact ⟨rfl, rfl, rfl⟩
          · rintro ⟨rfl, rfl, htotal⟩
            rw [TokenUsage.ofCounts, ← htotal]

section Collect

variable {before : List Chunk} {last : Chunk} (hbefore : ∀ c ∈ before, c.closes = false)

include hbefore

theorem collect_told_of_error {e : String} (h : last.error = some e) (rest : List Chunk) :
    collect (d.told (before ++ last :: rest)) =
      ⟨Chunk.shownTexts before, .error (.transport e)⟩ := by
  obtain ⟨uses, d', -, hcollect⟩ := collectFrom_told hbefore .empty d (last :: rest)
  rw [collect, hcollect, told_of_error h]
  simp [collectFrom]

theorem collect_told_of_done (h : last.error = none) (hdone : last.done = true)
    (rest : List Chunk) :
    ∃ response : Response,
      collect (d.told (before ++ last :: rest)) =
        ⟨Chunk.shownTexts (before ++ [last]), .ok response⟩ ∧
      response.Holds (before ++ [last]) ∧ response.usage = usage last := by
  obtain ⟨uses, d', huses, hcollect⟩ := collectFrom_told hbefore .empty d (last :: rest)
  rw [told_of_done h hdone, collectFrom_said] at hcollect
  refine ⟨⟨String.join ((before ++ [last]).map Chunk.content),
    uses ++ (nameCalls d'.named last.calls).1, usage last⟩, ?_, ⟨rfl, ?_⟩, rfl⟩
  · rw [collect, hcollect, Chunk.shownTexts_append]
    simp [collectFrom, Response.empty]
  · rw [List.flatMap_append, List.flatMap_singleton]
    exact List.rel_append huses (made_nameCalls d'.named last.calls)

theorem collect_told_of_open :
    ∃ response : Response,
      collect (d.told before) = ⟨Chunk.shownTexts before, .ok response⟩ ∧
      response.Holds before ∧ response.usage = none := by
  obtain ⟨uses, d', huses, hcollect⟩ := collectFrom_told hbefore .empty d []
  rw [List.append_nil, told] at hcollect
  refine ⟨⟨String.join (before.map Chunk.content), uses, none⟩, ?_, ⟨rfl, huses⟩, rfl⟩
  rw [collect, hcollect]
  simp [collectFrom, Response.empty]

end Collect

/-! ## Bodies -/

/-- The body of these lines, the last of them terminated or not. -/
def bodyOf (lines : List (List Char)) (terminated : Bool) : List Char :=
  ['\n'].intercalate lines ++ if terminated then ['\n'] else []

theorem amongLines_bodyOf {lines : List (List Char)} (h : ∀ line ∈ lines, '\n' ∉ line)
    (terminated : Bool) :
    Chunk.amongLines ((bodyOf lines terminated).splitOn '\n') = Chunk.amongLines lines := by
  have hjoined : Chunk.amongLines ((['\n'].intercalate lines).splitOn '\n') =
      Chunk.amongLines lines := by
    by_cases hne : lines = []
    · subst hne
      exact Chunk.amongLines_concat_nil []
    · rw [List.splitOn_intercalate '\n' h hne]
  cases terminated with
  | false => rw [bodyOf, if_neg Bool.false_ne_true, List.append_nil, hjoined]
  | true =>
      rw [bodyOf, if_pos rfl, List.splitOn_append_cons_self, List.splitOn_nil,
        Chunk.amongLines_concat_nil, hjoined]

/-- The events of a body are those of the chunks among its lines. -/
theorem decode_bodyOf {lines : List (List Char)} (h : ∀ line ∈ lines, '\n' ∉ line)
    (terminated : Bool) :
    decode [Utf8.encode (bodyOf lines terminated)] = start.told (Chunk.amongLines lines) := by
  rw [decode_eq, List.flatMap_singleton, Utf8.decodeLossy_encode, decodeText_eq,
    amongLines_bodyOf h]

/-- The answer is closed by a line with the chunk `last`, and not by the lines before it. -/
structure ClosedAt (lines before : List (List Char)) (last : Chunk) : Prop where
  place : ∃ line rest, lines = before ++ line :: rest ∧ Chunk.ofBodyLine? line = some last
  closes : last.closes = true
  first : ∀ c ∈ Chunk.amongLines before, c.closes = false

theorem ClosedAt.amongLines {lines before : List (List Char)} {last : Chunk}
    (h : ClosedAt lines before last) :
    ∃ rest, Chunk.amongLines lines = Chunk.amongLines before ++ last :: rest := by
  obtain ⟨line, rest, rfl, hline⟩ := h.place
  exact ⟨_, by rw [Chunk.amongLines_append, Chunk.amongLines_cons_of_some hline]⟩

/-- **What a streamed body comes to.** Let the lines of a body be given, whether or not the last of
them is terminated, and let `last` be the first chunk among them that reports an error or says that
the answer is complete.

* If `last` reports an error, draining fails with it, after the texts before `last` were shown.
* If it reports none, the response has the texts and the tool calls of the chunks up to `last`, in
  order, with the ids that the backend gave, and the two counts of `last` and their sum if it has
  both; the same texts were shown, as far as they are not empty.
* If there is no such chunk, the response has the texts and the tool calls of all chunks, and no
  counts.

Lines after `last` have no effect, nor have lines that are no chunks. -/
theorem collect_body {lines : List (List Char)} (h : ∀ line ∈ lines, '\n' ∉ line)
    (terminated : Bool) :
    (∀ before last, ClosedAt lines before last →
      (∀ e, last.error = some e →
        collect (decode [Utf8.encode (bodyOf lines terminated)]) =
          ⟨Chunk.shownTexts (Chunk.amongLines before), .error (.transport e)⟩) ∧
      (last.error = none → ∃ response : Response,
        collect (decode [Utf8.encode (bodyOf lines terminated)]) =
          ⟨Chunk.shownTexts (Chunk.amongLines before ++ [last]), .ok response⟩ ∧
        response.Holds (Chunk.amongLines before ++ [last]) ∧
        ∀ u, response.usage = some u ↔
          last.promptTokens = some u.prompt ∧ last.completionTokens = some u.completion ∧
            u.total = u.prompt + u.completion)) ∧
    ((∀ c ∈ Chunk.amongLines lines, c.closes = false) → ∃ response : Response,
      collect (decode [Utf8.encode (bodyOf lines terminated)]) =
        ⟨Chunk.shownTexts (Chunk.amongLines lines), .ok response⟩ ∧
      response.Holds (Chunk.amongLines lines) ∧ response.usage = none) ∧
    ∀ before line rest last, lines = before ++ line :: rest →
      Chunk.ofBodyLine? line = some last → last.closes = true →
        ∀ terminated', decode [Utf8.encode (bodyOf lines terminated)] =
          decode [Utf8.encode (bodyOf (before ++ [line]) terminated')] := by
  rw [decode_bodyOf h]
  refine ⟨fun before last hclosed => ?_, collect_told_of_open, ?_⟩
  · obtain ⟨rest, hchunks⟩ := hclosed.amongLines
    rw [hchunks]
    refine ⟨fun e herror => collect_told_of_error hclosed.first herror rest, fun herror => ?_⟩
    have hdone : last.done = true := (Chunk.closes_of_no_error herror).symm.trans hclosed.closes
    obtain ⟨response, hcollect, hholds, husage⟩ :=
      collect_told_of_done (d := start) hclosed.first herror hdone rest
    exact ⟨response, hcollect, hholds, fun u => by rw [husage, usage_eq_some_iff]⟩
  · -- Both bodies say what the chunks up to the closing one say, and then close.
    rintro before line rest last rfl hline hcloses terminated'
    have hshort : ∀ l ∈ before ++ [line], '\n' ∉ l := by
      intro l hl
      refine h l ?_
      rw [List.append_cons]
      exact List.mem_append_left rest hl
    rw [decode_bodyOf hshort, Chunk.amongLines_append, Chunk.amongLines_append,
      Chunk.amongLines_cons_of_some hline, Chunk.amongLines_cons_of_some hline,
      told_append_closing hcloses]
    exact (told_append_closing hcloses _ _ _).symm

/-- A text, a line that is no chunk, the chunk that closes the answer, and a text too late. -/
def belated : List (List Char) :=
  ["\x7b\"message\":\x7b\"content\":\"Hi\"\x7d\x7d".toList, "oops".toList,
    ("\x7b\"message\":\x7b\"content\":\"!\",\"tool_calls\":[\x7b\"id\":\"t1\"," ++
      "\"function\":\x7b\"name\":\"fs_read\"\x7d\x7d]\x7d,\"done\":true," ++
      "\"prompt_eval_count\":3,\"eval_count\":4\x7d").toList,
    "\x7b\"message\":\x7b\"content\":\"late\"\x7d\x7d".toList]

theorem collect_belated :
    (∀ line ∈ belated, '\n' ∉ line) ∧
      collect (decode [Utf8.encode (bodyOf belated true)]) =
        ⟨["Hi", "!"], .ok ⟨"Hi!", [⟨"t1", "fs_read", .null⟩], some ⟨3, 4, 7⟩⟩⟩ := by
  have hlines : ∀ line ∈ belated, '\n' ∉ line := by decide +kernel
  have hclosed : ClosedAt belated (belated.take 2)
      ⟨"!", [⟨some "t1", "fs_read", .null⟩], true, some 3, some 4, none⟩ :=
    ⟨⟨_, _, rfl, by decide +kernel⟩, rfl, by decide +kernel⟩
  have hbefore : Chunk.amongLines (belated.take 2) = [⟨"Hi", [], false, none, none, none⟩] := by
    decide +kernel
  refine ⟨hlines, ?_⟩
  obtain ⟨response, hcollect, ⟨htext, huses⟩, husage⟩ :=
    ((collect_body hlines true).1 _ _ hclosed).2 rfl
  have hcounts := (husage ⟨3, 4, 7⟩).mpr ⟨rfl, rfl, rfl⟩
  rw [hbefore] at hcollect htext huses
  obtain ⟨text, toolUses, usage⟩ := response
  obtain ⟨⟨id, name, args⟩, rest, ⟨hname, hargs, hid⟩, hnone, huse⟩ :=
    List.forall₂_cons_left_iff.mp huses
  obtain rfl := List.forall₂_nil_left_iff.mp hnone
  obtain rfl : text = "Hi!" := htext
  obtain rfl : usage = some ⟨3, 4, 7⟩ := hcounts
  obtain rfl : toolUses = [⟨id, name, args⟩] := huse
  obtain rfl : name = "fs_read" := hname
  obtain rfl : args = .null := hargs
  obtain rfl : id = "t1" := hid "t1" rfl
  exact hcollect

end Decoder

end ToolAgent
