import Dialogue.Proofs.Channel.Closing
import Dialogue.Proofs.Channel.Lines
import Dialogue.Proofs.Text.Digits

/-!
# Lines typed ahead

The input of a console is cut into lines (`IsLines`). Whatever else is said to a console while it is
open, each request takes the next line and nothing behind it (`TypedAhead.play`). What a line is
worth as a reply is told by its text (`repliesTo_replyOf`): so replies come out as they were typed,
whichever way their lines end (`replies_typed`).
-/

namespace Dialogue

namespace Deed

variable {κ : Type}

/-- A request for input. -/
def isRequest : Deed κ → Bool
  | .input _ => true
  | _ => false

/-- Something is sent or asked; the channel stays open, and nothing new arrives. -/
def IsUse : Deed κ → Prop
  | .message _ => True
  | .error _ => True
  | .input _ => True
  | .close => False
  | .far _ => False

end Deed

theorem Connection.length_answers {τ κ : Type} (c : Connection τ κ) (deeds : List (Deed κ))
    (state : τ) : (c.answers deeds state).length = deeds.countP Deed.isRequest := by
  induction deeds generalizing state with
  | nil => rfl
  | cons deed deeds ih =>
      rw [answers, List.length_append, ih, List.countP_cons, Nat.add_comm]
      cases deed <;> rfl

namespace Console

variable {c : Console} {bytes : Bytes} {line : Bytes} {lines : List Bytes}

/-! ## Lines -/

/-- Bytes cut behind every line feed; the last line may have none. -/
inductive IsLines : Bytes → List Bytes → Prop where
  | nil : IsLines [] []
  | last {line : Bytes} (hne : line ≠ []) (hfeed : lineFeed ∉ line) : IsLines line [line]
  | cons {body rest : Bytes} {lines : List Bytes} (hfeed : lineFeed ∉ body)
      (h : IsLines rest lines) :
      IsLines (body ++ lineFeed :: rest) ((body ++ [lineFeed]) :: lines)

theorem exists_lines (bytes : Bytes) : ∃ lines, IsLines bytes lines := by
  induction bytes with
  | nil => exact ⟨[], .nil⟩
  | cons b rest ih =>
      obtain ⟨lines, hlines⟩ := ih
      by_cases hb : b = lineFeed
      · subst hb
        exact ⟨_, .cons List.not_mem_nil hlines⟩
      -- The byte belongs to the line that begins behind it, if there is one.
      cases hlines with
      | nil => exact ⟨_, .last (List.cons_ne_nil b []) (by simpa using Ne.symm hb)⟩
      | last _ hfeed => exact ⟨_, .last (List.cons_ne_nil b rest) (by simp [Ne.symm hb, hfeed])⟩
      | @cons body _ _ hfeed hrest =>
          have hfeed' : lineFeed ∉ b :: body := by simp [Ne.symm hb, hfeed]
          exact ⟨_, .cons hfeed' hrest⟩

theorem IsLines.flatten (h : IsLines bytes lines) : lines.flatten = bytes := by
  induction h with
  | nil => rfl
  | last => simp
  | cons _ _ ih => simp [ih]

theorem cutLine_all (h : lineFeed ∉ line) : cutLine line = (line, []) := by
  induction line with
  | nil => rfl
  | cons b line ih =>
      obtain ⟨hb, hline⟩ := not_or.mp fun hmem => h (List.mem_cons.mpr hmem)
      rw [cutLine, if_neg (Ne.symm hb), ih hline]

/-! ## Lines as replies -/

/-- The characters that end lines. -/
def IsLineEnd (c : Char) : Prop :=
  c = '\r' ∨ c = '\n'

/-- What a line is worth as a reply: its text without the line ends at its end, if its bytes are
those of a text. -/
inductive RepliesTo : Bytes → Reply → Prop where
  | text {body ends : Text} (hends : ∀ c ∈ ends, IsLineEnd c)
      (hbody : ∀ c ∈ body.getLast?, ¬ IsLineEnd c) :
      RepliesTo (Utf8.encode (body ++ ends)) (.ok body)
  | unreadable {line : Bytes} {cause : Text} (h : ∀ text, line ≠ Utf8.encode text) :
      RepliesTo line (.error (.io cause))

theorem isLineEnd_iff {c : Char} : (c == '\r' || c == '\n') = true ↔ IsLineEnd c := by
  simp [IsLineEnd]

theorem replyOf_encode {body ends : Text} (hends : ∀ c ∈ ends, IsLineEnd c)
    (hbody : ∀ c ∈ body.getLast?, ¬ IsLineEnd c) :
    replyOf (Utf8.encode (body ++ ends)) = .ok body := by
  rw [replyOf, Utf8.decode_encode]
  dsimp only
  rw [dropLineEnds, Text.dropEndWhile_append fun c hc => isLineEnd_iff.mpr (hends c hc),
    Text.dropEndWhile_of_getLast fun c hc =>
      Bool.eq_false_iff.mpr fun h => hbody c hc (isLineEnd_iff.mp h)]

theorem repliesTo_replyOf (line : Bytes) : RepliesTo line (replyOf line) := by
  cases hdecode : Utf8.decode line with
  | ok text =>
      obtain rfl := Utf8.encode_of_decode hdecode
      obtain ⟨ends, htext, hends⟩ := Text.exists_dropEndWhile (fun c => c == '\r' || c == '\n') text
      have hbody : ∀ c ∈ (dropLineEnds text).getLast?, ¬ IsLineEnd c := by
        intro c hc hend
        rw [dropLineEnds, Text.dropEndWhile, List.getLast?_reverse] at hc
        exact Bool.eq_false_iff.mp (Text.not_of_head_dropWhile c hc) (isLineEnd_iff.mpr hend)
      have hreplies :
          RepliesTo (Utf8.encode (dropLineEnds text ++ ends)) (.ok (dropLineEnds text)) :=
        .text (fun c hc => isLineEnd_iff.mp (hends c hc)) hbody
      rw [dropLineEnds, ← htext] at hreplies
      rw [replyOf, Utf8.decode_encode]
      exact hreplies
  | error fault =>
      rw [replyOf, hdecode]
      refine .unreadable fun text hline => ?_
      rw [hline, Utf8.decode_encode] at hdecode
      cases hdecode

/-! ## One request -/

/-- What the next request is answered. -/
def nextReply (lines : List Bytes) : Reply :=
  match lines with
  | [] => .error .closed
  | line :: _ => replyOf line

/-- An open console with lines to be read, which takes what is sent. -/
structure TypedAhead (c : Console) (lines : List Bytes) : Prop where
  opened : c.closed = false
  healthy : c.output.Healthy
  lines : IsLines c.input lines

theorem TypedAhead.not_closed (h : TypedAhead c lines) : ¬ c.closed = true := by
  rw [h.opened]
  exact Bool.false_ne_true

theorem readLine_lines (h : IsLines c.input lines) :
    ∃ input, c.readLine = ({ c with input }, nextReply lines) ∧ IsLines input lines.tail := by
  rw [readLine]
  generalize hinput : c.input = bytes at h
  cases h with
  | nil => exact ⟨c.input, rfl, hinput ▸ .nil⟩
  | last hne hfeed =>
      rw [cutLine_all hfeed]
      exact ⟨[], if_neg hne, .nil⟩
  | @cons body rest _ hfeed hrest =>
      rw [cutLine_append hfeed]
      exact ⟨rest, if_neg (List.append_ne_nil_of_right_ne_nil _ (List.cons_ne_nil _ _)), hrest⟩

/-- A request takes the next line. -/
theorem TypedAhead.request (h : TypedAhead c lines) (prompt : Text) :
    ∃ c', c.request prompt = (c', nextReply lines) ∧ TypedAhead c' lines.tail := by
  have hwritten :
      TypedAhead { c with output := c.output.plus [Utf8.encode prompt].flatten } lines :=
    ⟨h.opened, h.healthy.plus _, h.lines⟩
  obtain ⟨input, hread, hrest⟩ := readLine_lines hwritten.lines
  refine ⟨{ c with input, output := c.output.plus [Utf8.encode prompt].flatten }, ?_,
    hwritten.opened, hwritten.healthy, hrest⟩
  rw [Console.request, if_neg h.not_closed, h.healthy.writeFlush]
  exact hread

/-- One deed: no line is taken, or the next one if it is a request. -/
theorem TypedAhead.step (h : TypedAhead c lines) {deed : Deed Bytes} (hdeed : deed.IsUse) :
    (connection.step deed c).2 = [] ∧ TypedAhead (connection.step deed c).1 lines
      ∨ (connection.step deed c).2 = [some (nextReply lines)]
        ∧ TypedAhead (connection.step deed c).1 lines.tail := by
  cases deed with
  | message text =>
      refine .inl ⟨rfl, ?_⟩
      show TypedAhead (c.message text) lines
      rw [message, if_neg h.not_closed, h.healthy.writeFlush]
      exact ⟨h.opened, h.healthy.plus _, h.lines⟩
  | error text =>
      refine .inl ⟨rfl, ?_⟩
      show TypedAhead (c.error text) lines
      rw [error, if_neg h.not_closed]
      exact ⟨h.opened, h.healthy, h.lines⟩
  | input prompt =>
      obtain ⟨c', hrequest, hrest⟩ := h.request prompt
      have hstep : connection.step (.input prompt) c = (c', [some (nextReply lines)]) := by
        show ((c.request prompt).1, [some (c.request prompt).2]) = _
        rw [hrequest]
      rw [hstep]
      exact .inr ⟨rfl, hrest⟩
  | close => exact hdeed.elim
  | far act => exact hdeed.elim

/-- A request whose prompt cannot be written takes nothing. -/
theorem request_unwritten (hopen : c.closed = false) {prompt : Text} {e : ChannelError}
    (h : (c.output.writeFlush [Utf8.encode prompt]).2 = .error e) :
    (c.request prompt).2 = .error e ∧ (c.request prompt).1.input = c.input := by
  rw [request, hopen, if_neg Bool.false_ne_true]
  cases hwrite : c.output.writeFlush [Utf8.encode prompt] with
  | mk output result =>
      rw [hwrite] at h
      obtain rfl := h
      exact ⟨rfl, rfl⟩

/-! ## All requests -/

theorem nextReply_drop (lines : List Bytes) (i : Nat) :
    (∃ line, lines[i]? = some line ∧ nextReply (lines.drop i) = replyOf line)
      ∨ lines.length ≤ i ∧ nextReply (lines.drop i) = .error .closed := by
  rcases Nat.lt_or_ge i lines.length with hi | hi
  · rw [List.drop_eq_getElem_cons hi]
    exact .inl ⟨lines[i], List.getElem?_eq_getElem hi, rfl⟩
  · rw [List.drop_eq_nil_of_le hi]
    exact .inr ⟨hi, rfl⟩

/-- **Every request takes the line whose turn it is,** whatever is sent in between. -/
theorem TypedAhead.play (h : TypedAhead c lines) {deeds : List (Deed Bytes)}
    (hdeeds : ∀ deed ∈ deeds, deed.IsUse) :
    TypedAhead (connection.after deeds c) (lines.drop (deeds.countP Deed.isRequest))
      ∧ ∀ i < deeds.countP Deed.isRequest,
        (connection.answers deeds c)[i]? = some (some (nextReply (lines.drop i))) := by
  simp only [← connection.length_answers deeds c]
  induction deeds generalizing c lines with
  | nil => exact ⟨h, nofun⟩
  | cons deed deeds ih =>
      obtain ⟨hdeed, hdeeds⟩ := List.forall_mem_cons.mp hdeeds
      rw [Connection.after_cons, Connection.answers]
      rcases h.step hdeed with ⟨hnone, hrest⟩ | ⟨hreply, hrest⟩
      · rw [hnone]
        exact ih hrest hdeeds
      · obtain ⟨hafter, hanswers⟩ := ih hrest hdeeds
        rw [hreply, List.singleton_append, List.length_cons]
        rw [List.drop_tail] at hafter
        refine ⟨hafter, fun i hi => ?_⟩
        cases i with
        | zero => rfl
        | succ i =>
            rw [List.getElem?_cons_succ, hanswers i (Nat.lt_of_succ_lt_succ hi), List.drop_tail]

/-! ## Replies as they are typed -/

/-- What can be typed and come out unchanged. -/
def IsTyped (reply : Text) : Prop :=
  '\n' ∉ reply ∧ reply.getLast? ≠ some '\r'

/-- The line ends of the two conventions. -/
def lineEnds : List Text :=
  [['\n'], ['\r', '\n']]

theorem IsTyped.last {reply : Text} (h : IsTyped reply) : ∀ c ∈ reply.getLast?, ¬ IsLineEnd c := by
  rintro c hc (rfl | rfl)
  · exact h.2 hc
  · exact h.1 (List.mem_of_getLast? hc)

theorem isLineEnd_of_mem_lineEnds {ends : Text} (h : ends ∈ lineEnds) :
    ∀ c ∈ ends, IsLineEnd c := by
  simp only [lineEnds, List.mem_cons, List.not_mem_nil, or_false] at h
  rcases h with rfl | rfl <;> simp [IsLineEnd]

theorem isLines_line {reply ends : Text} (hreply : IsTyped reply) (hends : ends ∈ lineEnds)
    {rest : Bytes} (h : IsLines rest lines) :
    IsLines (Utf8.encode (reply ++ ends) ++ rest) (Utf8.encode (reply ++ ends) :: lines) := by
  obtain ⟨back, rfl, hback⟩ : ∃ back : Text, ends = back ++ ['\n'] ∧ '\n' ∉ back := by
    simp only [lineEnds, List.mem_cons, List.not_mem_nil, or_false] at hends
    rcases hends with rfl | rfl
    · exact ⟨[], rfl, List.not_mem_nil⟩
    · exact ⟨['\r'], rfl, by decide⟩
  have hbody : lineFeed ∉ Utf8.encode (reply ++ back) :=
    lineFeed_not_mem_encode fun hmem => (List.mem_append.mp hmem).elim hreply.1 hback
  have hline : Utf8.encode (reply ++ (back ++ ['\n'])) =
      Utf8.encode (reply ++ back) ++ [lineFeed] := by
    rw [← List.append_assoc, Utf8.encode_append]
    rfl
  rw [hline, List.append_assoc]
  exact .cons hbody h

/-- The lines of what is typed: replies with line ends, and what is left behind the last of them. -/
def typedLines (typed : List (Text × Text)) (left : Text) : List Bytes :=
  typed.map (fun r => Utf8.encode (r.1 ++ r.2)) ++ (if left = [] then [] else [Utf8.encode left])

theorem isLines_typed {typed : List (Text × Text)} {left : Text}
    (htyped : ∀ r ∈ typed, IsTyped r.1 ∧ r.2 ∈ lineEnds) (hleft : IsTyped left) :
    IsLines (Utf8.encode (typed.flatMap (fun r => r.1 ++ r.2) ++ left))
      (typedLines typed left) := by
  induction typed with
  | nil =>
      rw [typedLines, List.map_nil, List.nil_append, List.flatMap_nil, List.nil_append]
      split
      · next hnil => exact hnil ▸ .nil
      · next hne =>
        refine .last (fun hencode => hne ?_) (lineFeed_not_mem_encode hleft.1)
        have hdecode := Utf8.decode_encode left
        rw [hencode] at hdecode
        exact (Except.ok.inj hdecode).symm
  | cons r typed ih =>
      obtain ⟨⟨hreply, hends⟩, htyped⟩ := List.forall_mem_cons.mp htyped
      rw [List.flatMap_cons, List.append_assoc, Utf8.encode_append]
      exact isLines_line hreply hends (ih htyped)

/-- What is typed, without the line ends. -/
def typedReplies (typed : List (Text × Text)) (left : Text) : List Text :=
  typed.map Prod.fst ++ (if left = [] then [] else [left])

theorem replyOf_typedLines {typed : List (Text × Text)} {left : Text}
    (htyped : ∀ r ∈ typed, IsTyped r.1 ∧ r.2 ∈ lineEnds) (hleft : IsTyped left) :
    (typedLines typed left).map replyOf = (typedReplies typed left).map .ok := by
  rw [typedLines, typedReplies, List.map_append, List.map_append, List.map_map, List.map_map]
  congr 1
  · refine List.map_congr_left fun r hr => ?_
    obtain ⟨hreply, hends⟩ := htyped r hr
    exact replyOf_encode (isLineEnd_of_mem_lineEnds hends) hreply.last
  · split
    · rfl
    · have hreply : replyOf (Utf8.encode (left ++ [])) = .ok left := replyOf_encode nofun hleft.last
      rw [List.append_nil] at hreply
      rw [List.map_singleton, List.map_singleton, hreply]

theorem nextReply_eq (lines : List Bytes) (i : Nat) :
    nextReply (lines.drop i) = (lines.map replyOf)[i]?.getD (.error .closed) := by
  rw [List.getElem?_map, ← List.head?_drop]
  cases lines.drop i <;> rfl

/-- **Requests read the lines of the input in turn.** Whatever is sent in between, each takes one
line, all of it and nothing behind it, and gives its text without the line ends at its end, or an
error if its bytes are not those of a text; behind the last line the channel is closed. A request
whose prompt cannot be written takes nothing. Replies come out as they were typed, with line feeds
or with carriage returns before them. -/
theorem lines_read_in_turn :
    (∀ c : Console, c.closed = false → c.output.Healthy → ∃ lines, IsLines c.input lines
      ∧ ∀ deeds : List (Deed Bytes), (∀ deed ∈ deeds, deed.IsUse) →
        (connection.after deeds c).input = (lines.drop (deeds.countP Deed.isRequest)).flatten
        ∧ ∀ i < deeds.countP Deed.isRequest, ∃ reply,
          (connection.answers deeds c)[i]? = some (some reply)
          ∧ ((∃ line, lines[i]? = some line ∧ RepliesTo line reply)
            ∨ lines.length ≤ i ∧ reply = .error .closed))
    ∧ (∀ (c : Console) (prompt : Text) (e : ChannelError), c.closed = false →
      (c.output.writeFlush [Utf8.encode prompt]).2 = .error e →
        (c.request prompt).2 = .error e ∧ (c.request prompt).1.input = c.input)
    ∧ ∀ (c : Console) (typed : List (Text × Text)) (left : Text), c.closed = false →
      c.output.Healthy → (∀ r ∈ typed, IsTyped r.1 ∧ r.2 ∈ lineEnds) → IsTyped left →
      c.input = Utf8.encode (typed.flatMap (fun r => r.1 ++ r.2) ++ left) →
        ∀ deeds : List (Deed Bytes), (∀ deed ∈ deeds, deed.IsUse) →
          ∀ i < deeds.countP Deed.isRequest, (connection.answers deeds c)[i]? =
            some (some (((typedReplies typed left).map .ok)[i]?.getD (.error .closed))) := by
  refine ⟨?_, ?_, ?_⟩
  · intro c hopen hhealthy
    obtain ⟨lines, hlines⟩ := exists_lines c.input
    have htyped : TypedAhead c lines := ⟨hopen, hhealthy, hlines⟩
    refine ⟨lines, hlines, fun deeds hdeeds => ?_⟩
    obtain ⟨hafter, hanswers⟩ := htyped.play hdeeds
    refine ⟨hafter.lines.flatten.symm, fun i hi => ⟨_, hanswers i hi, ?_⟩⟩
    rcases nextReply_drop lines i with ⟨line, hline, hreply⟩ | ⟨hend, hreply⟩
    · exact .inl ⟨line, hline, hreply ▸ repliesTo_replyOf line⟩
    · exact .inr ⟨hend, hreply⟩
  · intro c prompt e hopen hwrite
    exact request_unwritten hopen hwrite
  · intro c typed left hopen hhealthy htyped hleft hinput deeds hdeeds i hi
    have hlines : IsLines c.input (typedLines typed left) := hinput ▸ isLines_typed htyped hleft
    have hahead : TypedAhead c (typedLines typed left) := ⟨hopen, hhealthy, hlines⟩
    rw [(hahead.play hdeeds).2 i hi, nextReply_eq, replyOf_typedLines htyped hleft]

/-- A user who types ahead, with both kinds of line ends and none behind the last reply. -/
def hurried : Console where
  input := Utf8.encode (['a', ' ', '\r', '\n'] ++ ['\n'] ++ ['é', '\r', 'b'])

/-- A line that is no text, an empty one, and one with too many line ends. -/
def messy : Console where
  input := [0x61, 0xFF, 0x0A, 0x0A, 0x62, 0x0D, 0x0D, 0x0A]

/-- A console that cannot show its prompts. -/
def stuck : Console :=
  { messy with output := { room := some 1 } }

/-- Four requests, with a message and an error between them. -/
def fourRequests : List (Deed Bytes) :=
  [.input ['1'], .message ['m'], .input ['2'], .input ['3'], .error ['e'], .input ['4']]

theorem hurried_read_in_turn :
    (∃ lines, IsLines messy.input lines
      ∧ (connection.after fourRequests messy).input = (lines.drop 4).flatten)
    ∧ (stuck.request ['4', '2']).2 = .error (.io "sink full".toList)
    ∧ (stuck.request ['4', '2']).1.input = messy.input
    ∧ (connection.answers fourRequests hurried)[0]? = some (some (.ok ['a', ' ']))
    ∧ (connection.answers fourRequests hurried)[1]? = some (some (.ok []))
    ∧ (connection.answers fourRequests hurried)[2]? = some (some (.ok ['é', '\r', 'b']))
    ∧ (connection.answers fourRequests hurried)[3]? = some (some (.error .closed)) := by
  have huse : ∀ deed ∈ fourRequests, deed.IsUse := by simp [fourRequests, Deed.IsUse]
  have hwrite : (stuck.output.writeFlush [Utf8.encode ['4', '2']]).2 =
      .error (.io "sink full".toList) := by decide +kernel
  have htyped : ∀ r ∈ [(['a', ' '], ['\r', '\n']), ([], ['\n'])], IsTyped r.1 ∧ r.2 ∈ lineEnds := by
    simp [IsTyped, lineEnds]
  have hleft : IsTyped ['é', '\r', 'b'] := ⟨by decide, by decide⟩
  obtain ⟨lines, hlines, hall⟩ := lines_read_in_turn.1 messy rfl ⟨rfl, rfl⟩
  obtain ⟨hreply, hinput⟩ := lines_read_in_turn.2.1 stuck ['4', '2'] _ rfl hwrite
  have hreplies :=
    lines_read_in_turn.2.2 hurried _ _ rfl ⟨rfl, rfl⟩ htyped hleft rfl fourRequests huse
  exact ⟨⟨lines, hlines, (hall fourRequests huse).1⟩, hreply, hinput, hreplies 0 (by decide),
    hreplies 1 (by decide), hreplies 2 (by decide), hreplies 3 (by decide)⟩

end Console

end Dialogue
