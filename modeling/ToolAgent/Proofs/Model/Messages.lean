import ToolAgent.Proofs.Json.Scanner
import ToolAgent.Proofs.Model.Decoding

/-!
# Streamed messages, cut anywhere

A streamed answer is lines, each with a piece of text. For such bodies `decode_messages_iff` says
exactly which cuts make a difference: those that go through a character. It needs the events of such
a body (`decodeText_messages`), which in turn need the chunk of its lines (`Chunk.ofLine?_message`).
`decode_pieces` puts this beside what holds of every body.
-/

namespace ToolAgent

open Json (StandsForItself)

/-! ## Messages as text -/

namespace Chunk

/-- What stands before the text of a message. -/
def opening : List Char := "\x7b\"message\":\x7b\"content\":\"".toList

/-- What stands after it. -/
def closing : List Char := "\"\x7d\x7d".toList

theorem ofLine?_nil : ofLine? [] = none := by
  have hscan : Json.scan [] = ⟨.gap (.ofFault ⟨.endOfValue, Json.before []⟩), none⟩ := by
    rw [Json.scan, Json.scanValue_nil]
    rfl
  rw [ofLine?, Json.readText, String.toList_ofList, hscan]
  rfl

theorem ofLine?_message {text : List Char} (h : ∀ c ∈ text, StandsForItself c) :
    ofLine? (opening ++ text ++ closing) =
      some ⟨String.ofList text, [], false, none, none, none⟩ := by
  have hline : opening ++ text ++ closing =
      '\x7b' :: '"' :: ("message".toList ++ '"' :: ':' :: '\x7b' :: '"' ::
        ("content".toList ++ '"' :: ':' :: '"' :: (text ++ '"' :: ['\x7d', '\x7d']))) := by
    rw [List.append_assoc]
    rfl
  have houter : ∀ c ∈ "message".toList, StandsForItself c :=
    Json.standsForItself_of_all (by decide)
  have hinner : ∀ c ∈ "content".toList, StandsForItself c :=
    Json.standsForItself_of_all (by decide)
  have hscan := Json.scan_eq <|
    Json.leaves_scanValue_object <| Json.leaves_scanMembers_first <|
      Json.leaves_scanMember houter
        (Json.leaves_scanValue_object <| Json.leaves_scanMembers_first <|
          Json.leaves_scanMember hinner (Json.leaves_scanValue_string h ['\x7d', '\x7d'])
            (Json.leaves_scanMembers_done ['\x7d']))
        (Json.leaves_scanMembers_done [])
  rw [ofLine?, Json.readText, hline, String.toList_ofList, hscan]
  rfl

end Chunk

namespace Decoder

open Chunk (opening closing)

/-- The line of a message with this text. -/
def messageLine (text : List Char) : List Char := opening ++ text ++ closing ++ ['\n']

/-- The events of a message with this text. -/
def textEvents (text : List Char) : EventStream :=
  if text = [] then [] else [.ok (.text (String.ofList text))]

theorem trimChars_message (text : List Char) :
    Text.trimChars (opening ++ text ++ closing) = opening ++ text ++ closing := by
  have hfront : Text.dropBlanks (opening ++ text ++ closing) = opening ++ text ++ closing := rfl
  rw [Text.trimChars, hfront, Text.dropWhileEnd, List.reverse_append]
  have hback : (closing.reverse ++ (opening ++ text).reverse).dropWhile Text.isBlank =
      closing.reverse ++ (opening ++ text).reverse := rfl
  rw [hback, ← List.reverse_append, List.reverse_reverse]

theorem decodeLine_message {text : List Char} (h : ∀ c ∈ text, StandsForItself c) :
    start.decodeLine (opening ++ text ++ closing) = (textEvents text, start) := by
  have hopen : start.finished = false := rfl
  rw [decodeLine, hopen, if_neg Bool.false_ne_true, trimChars_message, Chunk.ofLine?_message h]
  dsimp only
  rw [decodeChunk, textEvents]
  by_cases hempty : text = []
  · subst hempty
    rfl
  · have hne : String.ofList text ≠ "" := by
      intro heq
      rw [← String.toList_ofList (l := text), heq] at hempty
      exact hempty rfl
    simp only [if_neg hne, if_neg hempty]
    rfl

theorem take_message {text : List Char} (h : ∀ c ∈ text, StandsForItself c) :
    start.take (messageLine text) = (textEvents text, start) := by
  have hline : ∀ c ∈ opening ++ text ++ closing, (c == '\n') = false := by
    have hopening : '\n' ∉ opening := by decide
    have hclosing : '\n' ∉ closing := by decide
    intro c hc
    rcases List.mem_append.mp hc with hc | hc
    · rcases List.mem_append.mp hc with hc | hc
      · exact beq_false_of_ne (ne_of_mem_of_not_mem hc hopening)
      · have hcontrol := (h c hc).2.2
        refine beq_false_of_ne fun heq => ?_
        subst heq
        exact absurd hcontrol (by decide)
    · exact beq_false_of_ne (ne_of_mem_of_not_mem hc hclosing)
  have hcut : Text.completeLines (· == '\n') (start.buffer ++ messageLine text) =
      ([opening ++ text ++ closing], []) := Text.completeLines_line hline rfl
  have hbuffer : { start with buffer := [] } = start := rfl
  rw [take, hcut]
  dsimp only
  rw [hbuffer, decodeLines, decodeLine_message h]
  dsimp only
  rw [decodeLines, List.append_nil]

theorem take_messages {texts : List (List Char)}
    (h : ∀ text ∈ texts, ∀ c ∈ text, StandsForItself c) :
    start.take (texts.flatMap messageLine) = (texts.flatMap textEvents, start) := by
  induction texts with
  | nil => exact take_nil settled_start
  | cons text texts ih =>
      obtain ⟨htext, htexts⟩ := List.forall_mem_cons.mp h
      rw [List.flatMap_cons, take_append, take_message htext, ih htexts, List.flatMap_cons]

theorem finish_start :
    start.finish = ([.ok (.endStream none)], { start with finished := true }) := by
  have hline : start.decodeLine [] = ([], start) := by
    have hopen : start.finished = false := rfl
    have htrim : Text.trimChars [] = [] := rfl
    rw [decodeLine, hopen, if_neg Bool.false_ne_true, htrim, Chunk.ofLine?_nil]
  have hbuffer : { start with buffer := [] } = start := rfl
  have hempty : start.buffer = [] := rfl
  rw [finish, hbuffer, hempty, hline]
  rfl

/-- **A body of messages yields their texts**, those that are not empty, and its end. -/
theorem decodeText_messages {texts : List (List Char)}
    (h : ∀ text ∈ texts, ∀ c ∈ text, StandsForItself c) :
    decodeText (texts.flatMap messageLine) =
      texts.flatMap textEvents ++ [.ok (.endStream none)] := by
  rw [decodeText, take_messages h]
  dsimp only
  rw [finish_start]

/-! ## Messages as bytes -/

/-- A byte that is no quote, no backslash and no control character. -/
def IsPlain (b : UInt8) : Prop := 0x20 ≤ b.toNat ∧ b.toNat ≠ 0x22 ∧ b.toNat ≠ 0x5C

/-- The line of a message with these bytes between the quotes. They need not be well formed. -/
def messageBytes (content : Bytes) : Bytes :=
  Utf8.encode opening ++ content ++ Utf8.encode (closing ++ ['\n'])

/-- Plain bytes are shown as characters that stand for themselves. -/
theorem standsForItself_of_plain {bs : Bytes} (h : ∀ b ∈ bs, IsPlain b) {c : Char}
    (hc : c ∈ Utf8.decodeLossy bs) : StandsForItself c := by
  have htoNat : 0x20 ≤ c.toNat ∧ c.toNat ≠ 0x22 ∧ c.toNat ≠ 0x5C := by
    by_cases hascii : c.toNat < 0x80
    · obtain ⟨b, hb, heq⟩ := Utf8.mem_of_mem_decodeLossy hc hascii
      rw [← heq]
      exact h b hb
    · omega
  refine ⟨?_, ?_, htoNat.1⟩
  · rintro rfl
    exact htoNat.2.1 rfl
  · rintro rfl
    exact htoNat.2.2 rfl

/-- Nothing goes over the place before a message. -/
theorem apart_messages (before : Bytes) (contents : List Bytes) :
    Utf8.Apart before (contents.flatMap messageBytes) := by
  cases contents with
  | nil => exact .nil_right before
  | cons content contents => exact .of_not_tail before rfl _

theorem decodeLossy_messageBytes (content : Bytes) :
    Utf8.decodeLossy (messageBytes content) = messageLine (Utf8.decodeLossy content) := by
  have hclosing : Utf8.Apart content (Utf8.encode (closing ++ ['\n'])) := .of_not_tail content rfl _
  rw [messageBytes, List.append_assoc, Utf8.decodeLossy_append (.of_encode opening _),
    Utf8.decodeLossy_append hclosing, Utf8.decodeLossy_encode, Utf8.decodeLossy_encode, messageLine,
    List.append_assoc, List.append_assoc]

theorem decodeLossy_messages (contents : List Bytes) :
    Utf8.decodeLossy (contents.flatMap messageBytes) =
      (contents.map Utf8.decodeLossy).flatMap messageLine := by
  induction contents with
  | nil => exact Utf8.decodeLossy_nil
  | cons content contents ih =>
      rw [List.flatMap_cons, Utf8.decodeLossy_append (apart_messages _ contents),
        decodeLossy_messageBytes, ih, List.map_cons, List.flatMap_cons]

theorem exists_message {pieces : List Bytes} {content : Bytes}
    (h : pieces.flatten = messageBytes content) :
    ∃ group : List Bytes, group.flatten = content ∧
      pieces.flatMap Utf8.decodeLossy = messageLine (group.flatMap Utf8.decodeLossy) := by
  have hopening : ∀ a ∈ Utf8.encode opening, a.toNat < 0x80 := Utf8.ascii_of_all (by decide)
  have hclosing : ∀ a ∈ Utf8.encode (closing ++ ['\n']), a.toNat < 0x80 :=
    Utf8.ascii_of_all (by decide)
  rw [messageBytes, List.append_assoc] at h
  obtain ⟨front, rest, hfront, hrest, hdecoded⟩ := Utf8.exists_flatMap_decodeLossy
    (fun s hs => .of_ascii (fun a ha => hopening a (hs.subset ha)) _) h
  obtain ⟨group, back, hgroup, hback, hdecoded'⟩ := Utf8.exists_flatMap_decodeLossy
    (fun s _ => .of_not_tail s rfl _) hrest
  refine ⟨group, hgroup, ?_⟩
  -- What frames the text is ASCII and is shown as itself, wherever it is cut.
  rw [hdecoded, hdecoded', Utf8.flatMap_decodeLossy_of_ascii hopening hfront,
    Utf8.flatMap_decodeLossy_of_ascii hclosing hback, messageLine, List.append_assoc,
    List.append_assoc]

/-- However a body of messages is cut, it is shown as a body of messages; each text is what the
parts of its bytes are shown as. -/
theorem exists_messages {pieces contents : List Bytes}
    (h : pieces.flatten = contents.flatMap messageBytes) :
    ∃ groups : List (List Bytes), groups.map List.flatten = contents ∧
      pieces.flatMap Utf8.decodeLossy =
        (groups.map (·.flatMap Utf8.decodeLossy)).flatMap messageLine := by
  induction contents generalizing pieces with
  | nil =>
      refine ⟨[], rfl, ?_⟩
      exact Utf8.flatMap_decodeLossy_eq_nil_iff.mpr (Utf8.decodeLossy_eq_nil_iff.mpr h)
  | cons content contents ih =>
      rw [List.flatMap_cons] at h
      obtain ⟨first, rest, hfirst, hrest, hdecoded⟩ := Utf8.exists_flatMap_decodeLossy
        (fun s _ => apart_messages s contents) h
      obtain ⟨group, rfl, hgroup⟩ := exists_message hfirst
      obtain ⟨groups, rfl, hgroups⟩ := ih hrest
      refine ⟨group :: groups, rfl, ?_⟩
      rw [hdecoded, hgroup, hgroups, List.map_cons, List.flatMap_cons]

/-- Texts of which the same are empty have the same events only if they are the same. -/
theorem eq_of_textEvents {α : Type} {f g : α → List Char} {xs : List α}
    (hempty : ∀ x ∈ xs, f x = [] ↔ g x = [])
    (h : (xs.map f).flatMap textEvents = (xs.map g).flatMap textEvents) : xs.map f = xs.map g := by
  induction xs with
  | nil => rfl
  | cons x xs ih =>
      obtain ⟨hx, hxs⟩ := List.forall_mem_cons.mp hempty
      simp only [List.map_cons, List.flatMap_cons, textEvents] at h ⊢
      by_cases hf : f x = []
      · have hg := hx.mp hf
        rw [if_pos hf, if_pos hg] at h
        rw [hf, hg, ih hxs h]
      · have hg : ¬ g x = [] := fun hg => hf (hx.mpr hg)
        rw [if_neg hf, if_neg hg] at h
        obtain ⟨hhead, htail⟩ := List.cons.inj h
        have htext : String.ofList (f x) = String.ofList (g x) := by
          injection hhead with hhead
          injection hhead
        rw [String.ofList_injective htext, ih hxs htail]

/-- **Exactly the cuts through a character change what a body of messages yields.** -/
theorem decode_messages_iff {pieces contents : List Bytes}
    (hplain : ∀ content ∈ contents, ∀ b ∈ content, IsPlain b)
    (h : pieces.flatten = contents.flatMap messageBytes) :
    decode pieces = decode [pieces.flatten] ↔ Utf8.WholeCuts pieces := by
  refine ⟨fun heq => ?_, decode_of_wholeCuts⟩
  obtain ⟨groups, rfl, hgroups⟩ := exists_messages h
  have hwhole : Utf8.decodeLossy pieces.flatten =
      (groups.map fun group => Utf8.decodeLossy group.flatten).flatMap messageLine := by
    rw [h, decodeLossy_messages, List.map_map]
    rfl
  have hshown : ∀ text ∈ groups.map (·.flatMap Utf8.decodeLossy), ∀ c ∈ text,
      StandsForItself c := by
    intro text htext c hc
    obtain ⟨group, hgroup, rfl⟩ := List.mem_map.mp htext
    obtain ⟨part, hpart, hc⟩ := List.mem_flatMap.mp hc
    have hplain' := hplain group.flatten (List.mem_map_of_mem hgroup)
    exact standsForItself_of_plain
      (fun b hb => hplain' b (List.mem_flatten_of_mem hpart hb)) hc
  have hmeant : ∀ text ∈ groups.map fun group => Utf8.decodeLossy group.flatten, ∀ c ∈ text,
      StandsForItself c := by
    intro text htext c hc
    obtain ⟨group, hgroup, rfl⟩ := List.mem_map.mp htext
    exact standsForItself_of_plain (hplain group.flatten (List.mem_map_of_mem hgroup)) hc
  -- Both texts are bodies of messages, so that their events tell the texts of the messages.
  rw [decode_eq, decode_eq, List.flatMap_singleton, hgroups, hwhole, decodeText_messages hshown,
    decodeText_messages hmeant] at heq
  have hsame := eq_of_textEvents (fun _ _ => Utf8.flatMap_decodeLossy_eq_nil_iff)
    (List.append_cancel_right heq)
  rw [← Utf8.flatMap_decodeLossy_eq_iff, hgroups, hwhole, hsame]

/-- **What cutting a body comes to.** If no cut goes through a character, and in general through no
piece of the body, the decoder reads the text of the body; any other cutting makes it read another
text. Reading the same text it yields the same events, and with bodies of messages it does so only
then. -/
theorem decode_pieces (pieces : List Bytes) :
    (Utf8.WholeCuts pieces ↔
      pieces.flatMap Utf8.decodeLossy = Utf8.decodeLossy pieces.flatten) ∧
    (Utf8.WholeCuts pieces → decode pieces = decode [pieces.flatten]) ∧
    ∀ contents : List Bytes, (∀ content ∈ contents, ∀ b ∈ content, IsPlain b) →
      pieces.flatten = contents.flatMap messageBytes →
      (decode pieces = decode [pieces.flatten] ↔ Utf8.WholeCuts pieces) := by
  refine ⟨Utf8.flatMap_decodeLossy_eq_iff.symm, decode_of_wholeCuts, ?_⟩
  intro contents hplain hbody
  exact decode_messages_iff hplain hbody

/-- A message with the text `é`, cut between the two bytes of `é`. -/
def halves : List Bytes :=
  [Utf8.encode opening ++ [0xC3], [0xA9] ++ Utf8.encode (closing ++ ['\n'])]

/-- Each half of the character is shown as a character of its own. -/
theorem decode_halves :
    decode halves = [.ok (.text "\uFFFD\uFFFD"), .ok (.endStream none)] ∧
      decode [halves.flatten] = [.ok (.text "é"), .ok (.endStream none)] := by
  have hcut : halves.flatMap Utf8.decodeLossy =
      [['\uFFFD', '\uFFFD']].flatMap messageLine := by decide +kernel
  have hwhole : [halves.flatten].flatMap Utf8.decodeLossy =
      [['é']].flatMap messageLine := by decide +kernel
  constructor
  · rw [decode_eq, hcut, decodeText_messages
      (List.forall_mem_singleton.mpr (Json.standsForItself_of_all (by decide)))]
    rfl
  · rw [decode_eq, hwhole, decodeText_messages
      (List.forall_mem_singleton.mpr (Json.standsForItself_of_all (by decide)))]
    rfl

end Decoder

end ToolAgent
