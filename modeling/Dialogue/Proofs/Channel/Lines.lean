import Dialogue.Channel.Duplex
import Dialogue.Proofs.Text.Utf8
import Dialogue.Proofs.Wire.Frame

/-!
# Lines of bytes

A text without a line feed is a line of its own, once a line feed is written behind
it. The console cuts its input into such lines and takes each as a reply
(`Console.readLine_line`); a byte stream takes each as a frame, if one was printed on
it (`Duplex.deliver_frameLines`). A healthy sink takes whatever is written.
-/

namespace Dialogue

/-! ## Sinks that do not fail -/

/-- A sink that takes what is written, however much it is. -/
def Sink.Healthy (s : Sink) : Prop :=
  s.room = none ∧ s.flushFails = false

/-- A sink with more written to it. -/
def Sink.plus (s : Sink) (bytes : Bytes) : Sink :=
  { s with written := s.written ++ bytes }

@[simp] theorem Sink.plus_written (s : Sink) (bytes : Bytes) :
    (s.plus bytes).written = s.written ++ bytes := rfl

theorem Sink.Healthy.plus {s : Sink} (h : s.Healthy) (bytes : Bytes) :
    (s.plus bytes).Healthy := h

theorem Sink.Healthy.write {s : Sink} (h : s.Healthy) (bytes : Bytes) :
    s.write bytes = (s.plus bytes, .ok ()) := by
  simp only [Sink.write, Sink.plus, h.1]

theorem Sink.Healthy.writeFlush {s : Sink} (h : s.Healthy) (pieces : List Bytes) :
    s.writeFlush pieces = (s.plus pieces.flatten, .ok ()) := by
  induction pieces generalizing s with
  | nil =>
      rw [Sink.writeFlush, Sink.flush, h.2, if_neg Bool.false_ne_true, List.flatten_nil,
        Sink.plus, List.append_nil]
  | cons piece rest ih =>
      rw [Sink.writeFlush, h.write]
      dsimp only
      rw [ih (h.plus piece), List.flatten_cons, Sink.plus, Sink.plus,
        Sink.plus, List.append_assoc]

/-! ## Texts as lines -/

/-- The bytes of a text on a line of its own. -/
def lineOf (text : Text) : Bytes :=
  Utf8.encode (text ++ ['\n'])

theorem lineOf_eq (text : Text) : lineOf text = Utf8.encode text ++ [Console.lineFeed] := by
  rw [lineOf, Utf8.encode_append]
  rfl

theorem lineFeed_not_mem_encode {text : Text} (h : '\n' ∉ text) :
    Console.lineFeed ∉ Utf8.encode text :=
  fun hmem => h (Utf8.mem_of_mem_encode (a := '\n') (by decide) hmem)

namespace Console

theorem cutLine_append {line : Bytes} (h : lineFeed ∉ line) (rest : Bytes) :
    cutLine (line ++ lineFeed :: rest) = (line ++ [lineFeed], rest) := by
  induction line with
  | nil => rfl
  | cons b line ih =>
      obtain ⟨hb, hline⟩ := not_or.mp fun hmem => h (List.mem_cons.mpr hmem)
      rw [List.cons_append, cutLine, if_neg (Ne.symm hb), ih hline]
      rfl

/-- The line end that is cut off a reply is the line feed and no more. -/
theorem dropLineEnds_line {reply : Text} (hfeed : '\n' ∉ reply)
    (hreturn : reply.getLast? ≠ some '\r') : dropLineEnds (reply ++ ['\n']) = reply := by
  rw [dropLineEnds, Text.dropEndWhile, List.reverse_append, List.reverse_singleton,
    List.singleton_append, List.dropWhile_cons_of_pos (by rfl)]
  rcases List.eq_nil_or_concat reply with rfl | ⟨front, c, rfl⟩
  · rfl
  · rw [List.concat_eq_append] at hfeed hreturn ⊢
    have hfeed' : c ≠ '\n' := by
      rintro rfl
      exact hfeed (List.mem_append_right _ (List.mem_singleton.mpr rfl))
    have hreturn' : c ≠ '\r' := by
      rintro rfl
      exact hreturn List.getLast?_concat
    rw [List.reverse_append, List.reverse_singleton, List.singleton_append,
      List.dropWhile_cons_of_neg (by simp [hfeed', hreturn'])]
    simp

/-- The next reply is the text on the next line. -/
theorem readLine_line {c : Console} {reply : Text} {rest : Bytes} (hfeed : '\n' ∉ reply)
    (hreturn : reply.getLast? ≠ some '\r') (hinput : c.input = lineOf reply ++ rest) :
    c.readLine = ({ c with input := rest }, .ok reply) := by
  have hcut : cutLine c.input = (lineOf reply, rest) := by
    rw [hinput, lineOf_eq, List.append_assoc]
    exact cutLine_append (lineFeed_not_mem_encode hfeed) rest
  have hne : lineOf reply ≠ [] := by
    rw [lineOf_eq]
    exact List.append_ne_nil_of_right_ne_nil _ (List.cons_ne_nil _ _)
  rw [readLine, hcut]
  dsimp only
  rw [if_neg hne, replyOf, lineOf, Utf8.decode_encode]
  dsimp only
  rw [dropLineEnds_line hfeed hreturn]

end Console

/-! ## Frames as lines -/

namespace Duplex

/-- The bytes of a frame on a line of its own. -/
def frameLine (f : Frame) : Bytes :=
  lineOf f.print

/-- A stream to which more frames have been written. -/
def plus (frames : List Frame) (d : Duplex) : Duplex :=
  { d with output := d.output.plus (frames.flatMap frameLine) }

theorem plus_nil (d : Duplex) : d.plus [] = d := by
  rw [Duplex.plus, List.flatMap_nil, Sink.plus, List.append_nil]

theorem plus_append (xs ys : List Frame) (d : Duplex) :
    d.plus (xs ++ ys) = (d.plus xs).plus ys := by
  simp only [Duplex.plus, Sink.plus, List.flatMap_append, List.append_assoc]

theorem write_healthy {d : Duplex} (h : d.output.Healthy) (f : Frame) :
    d.write f = (d.plus [f], .ok ()) := by
  rw [write, h.writeFlush, Duplex.plus, List.flatMap_singleton, List.flatten_singleton]
  rfl

theorem emit_healthy {d : Duplex} (hopen : d.closed = false) (h : d.output.Healthy)
    (f : Frame) : d.emit f = d.plus [f] := by
  rw [emit, hopen, if_neg Bool.false_ne_true, write_healthy h]

theorem inboundOf_frameLine (f : Frame) : inboundOf (frameLine f) = some (.frame f) := by
  have hne : f.print ≠ [] := by
    obtain ⟨members, hprint⟩ := Json.printTagged_eq Frame.tagging.tagKey f.tag
      Frame.tagging.contentKey (some f.content)
    rw [Frame.print, hprint]
    exact List.append_ne_nil_of_right_ne_nil _ (List.cons_ne_nil _ _)
  rw [inboundOf, frameLine, lineOf, Utf8.decode_encode]
  dsimp only
  rw [Frame.trim_print_lineFeed, if_neg hne, Frame.parse_print]

theorem deliver_append (xs ys : Bytes) (d : Duplex) :
    deliver (xs ++ ys) d = deliver ys (deliver xs d) := by
  induction xs generalizing d with
  | nil => rfl
  | cons b xs ih =>
      rw [List.cons_append, deliver, deliver]
      split <;> exact ih _

theorem deliver_start {bytes : Bytes} (h : Console.lineFeed ∉ bytes) (d : Duplex) :
    deliver bytes d = { d with pending := d.pending ++ bytes } := by
  induction bytes generalizing d with
  | nil => rw [deliver, List.append_nil]
  | cons b bytes ih =>
      obtain ⟨hb, hbytes⟩ := not_or.mp fun hmem => h (List.mem_cons.mpr hmem)
      rw [deliver, if_neg (Ne.symm hb), ih hbytes, List.append_assoc]
      rfl

theorem deliver_frameLine {d : Duplex} (hpending : d.pending = []) (hreading : d.reading = true)
    (f : Frame) : deliver (frameLine f) d = { d with queue := d.queue ++ [.frame f] } := by
  have hfeed := lineFeed_not_mem_encode (Frame.lineFeed_not_mem_print f)
  have hinbound := inboundOf_frameLine f
  rw [frameLine, lineOf_eq] at hinbound ⊢
  rw [deliver_append, deliver_start hfeed, hpending, List.nil_append, deliver, if_pos rfl, deliver,
    readLine, hinbound, hreading]
  rw [← hpending]
  rfl

/-- What was written is read back: the frames, each on a line of its own. -/
theorem deliver_frameLines {d : Duplex} (hpending : d.pending = [])
    (hreading : d.reading = true) (frames : List Frame) :
    deliver (frames.flatMap frameLine) d =
      { d with queue := d.queue ++ frames.map Inbound.frame } := by
  induction frames generalizing d with
  | nil => rw [List.flatMap_nil, deliver, List.map_nil, List.append_nil]
  | cons f frames ih =>
      rw [List.flatMap_cons, deliver_append, deliver_frameLine hpending hreading,
        ih (d := { d with queue := d.queue ++ [.frame f] }) hpending hreading,
        List.map_cons, List.append_assoc]
      rfl

end Duplex

end Dialogue
