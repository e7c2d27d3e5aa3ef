import Dialogue.Proofs.Channel.Inbox

/-!
# Bytes in chunks

Bytes come in chunks that know nothing of lines and characters. A stream keeps the start of a line
that is not complete, as bytes, so that where they are cut makes no difference
(`deliverAll_eq_deliver`). What it delivers are the lines of all the bytes together
(`delivered_lines`), and these are the frames themselves if frames were written
(`delivered_writeAll`).
-/

namespace Dialogue.Duplex

/-- Chunks of bytes arrive one after another. -/
def deliverAll (chunks : List Bytes) (d : Duplex) : Duplex :=
  chunks.foldl (fun d chunk => deliver chunk d) d

/-- Frames are written one after another. -/
def writeAll (frames : List Frame) (d : Duplex) : Duplex :=
  frames.foldl (fun d f => (d.write f).1) d

/-- What a new stream delivers when chunks of bytes arrive, and perhaps its end. -/
def delivered (chunks : List Bytes) (ended : Bool) : List Inbound :=
  let d := deliverAll chunks {}
  (if ended then d.finish else d).queue

/-- Bytes are cut behind every line feed; what is left behind the last is no line yet. -/
structure CutInLines (bytes : Bytes) (lines : List Bytes) (left : Bytes) : Prop where
  whole : lines.flatten ++ left = bytes
  line : ∀ l ∈ lines, ∃ body, l = body ++ [Console.lineFeed] ∧ Console.lineFeed ∉ body
  left : Console.lineFeed ∉ left

/-! ## Chunks make no difference -/

theorem deliverAll_eq_deliver (chunks : List Bytes) (d : Duplex) :
    deliverAll chunks d = deliver chunks.flatten d := by
  induction chunks generalizing d with
  | nil => rfl
  | cons chunk chunks ih =>
      rw [List.flatten_cons, deliver_append, ← ih]
      rfl

theorem deliverAll_append (chunks more : List Bytes) (d : Duplex) :
    deliverAll (chunks ++ more) d = deliverAll more (deliverAll chunks d) :=
  List.foldl_append

/-! ## Lines -/

theorem linesFrom_cut {start : Bytes} (hstart : Console.lineFeed ∉ start) (bytes : Bytes) :
    CutInLines (start ++ bytes) (linesFrom start bytes).1 (linesFrom start bytes).2 := by
  induction bytes generalizing start with
  | nil => exact ⟨(List.append_nil start).symm, fun _ hl => absurd hl List.not_mem_nil, hstart⟩
  | cons b bytes ih =>
      rw [linesFrom]
      by_cases hb : b = Console.lineFeed
      · have hrest : CutInLines bytes _ _ := ih List.not_mem_nil
        rw [if_pos hb]
        refine ⟨?_, ?_, hrest.left⟩
        · rw [List.flatten_cons, List.append_assoc, hrest.whole]
          simp
        · intro l hl
          rcases List.mem_cons.mp hl with rfl | hl
          · exact ⟨start, by rw [hb], hstart⟩
          · exact hrest.line l hl
      · have hstart' : Console.lineFeed ∉ start ++ [b] := by
          simpa [hstart] using Ne.symm hb
        rw [if_neg hb, List.append_cons]
        exact ih hstart'

/-- Nothing is kept behind a line that could not be read. -/
theorem upToFailure_dropLast (is : List Inbound) :
    ∀ i ∈ (upToFailure is).dropLast, i.isFailed = false := by
  induction is with
  | nil => exact fun i hi => absurd hi List.not_mem_nil
  | cons i is ih =>
      intro j hj
      rw [upToFailure] at hj
      split at hj
      · exact absurd hj List.not_mem_nil
      · next hi =>
        cases hrest : upToFailure is with
        | nil =>
            rw [hrest] at hj
            exact absurd hj List.not_mem_nil
        | cons k ks =>
            rw [hrest, List.dropLast_cons_of_ne_nil (List.cons_ne_nil k ks)] at hj
            rw [hrest] at ih
            rcases List.mem_cons.mp hj with rfl | hj
            · exact Bool.eq_false_iff.mpr hi
            · exact ih j hj

theorem any_upToFailure (is : List Inbound) :
    (upToFailure is).any Inbound.isFailed = is.any Inbound.isFailed := by
  induction is with
  | nil => rfl
  | cons i is ih =>
      rw [upToFailure]
      cases hi : i.isFailed with
      | true => simp [hi]
      | false => simp [hi, ih]

theorem deliverAll_new (chunks : List Bytes) :
    deliverAll chunks {} =
      hear ((linesFrom [] chunks.flatten).1.filterMap inboundOf)
        { pending := (linesFrom [] chunks.flatten).2 } := by
  rw [deliverAll_eq_deliver, deliver_eq]

/-- The end of a stream makes a line of what is left, also if that is nothing. -/
theorem finish_queue (d : Duplex) :
    d.finish.queue = (d.hear (inboundOf d.pending).toList).queue := by
  rw [finish_eq]
  by_cases hpending : d.pending = []
  · rw [if_pos hpending, hpending]
    rfl
  · rw [if_neg hpending]

theorem delivered_open (chunks : List Bytes) :
    delivered chunks false =
      upToFailure ((linesFrom [] chunks.flatten).1.filterMap inboundOf) := by
  rw [delivered, deliverAll_new]
  rfl

theorem delivered_ended (chunks : List Bytes) :
    delivered chunks true =
      upToFailure (((linesFrom [] chunks.flatten).1 ++ [(linesFrom [] chunks.flatten).2]).filterMap
        inboundOf) := by
  have hlast (line : Bytes) : [line].filterMap inboundOf = (inboundOf line).toList := by
    rw [filterMap_inboundOf_cons, List.filterMap_nil, List.append_nil]
  rw [delivered, deliverAll_new, if_pos rfl, finish_queue, hear_pending, ← hear_append,
    List.filterMap_append, hlast]
  rfl

/-- What is delivered are the lines of the bytes, and at the end of the stream what is left. -/
theorem delivered_lines (chunks : List Bytes) (ended : Bool) :
    ∃ lines left, CutInLines chunks.flatten lines left
      ∧ delivered chunks ended =
        upToFailure ((if ended then lines ++ [left] else lines).filterMap inboundOf) := by
  refine ⟨_, _, linesFrom_cut List.not_mem_nil chunks.flatten, ?_⟩
  cases ended with
  | false => exact delivered_open chunks
  | true => exact delivered_ended chunks

theorem hear_stopped {d : Duplex} (h : d.reading = false) (is : List Inbound) (pending : Bytes) :
    hear is { d with pending := pending } = { d with pending := pending } := by
  rw [hear, h, if_neg Bool.false_ne_true]

/-- After a line that could not be read nothing is delivered any more. -/
theorem delivered_append_of_failed {chunks : List Bytes}
    (hfailed : (delivered chunks false).any Inbound.isFailed = true) (more : List Bytes)
    (ended : Bool) : delivered (chunks ++ more) ended = delivered chunks false := by
  have hstopped : (deliverAll chunks {}).reading = false := by
    rw [delivered_open, any_upToFailure] at hfailed
    rw [deliverAll_new, hear, if_pos rfl, hfailed]
    rfl
  -- More bytes only change what is pending, and nobody makes a line of that any more.
  rw [delivered, deliverAll_append, deliverAll_eq_deliver more, deliver_eq, hear_stopped hstopped]
  cases ended with
  | false => rfl
  | true =>
      rw [if_pos rfl, finish_queue, hear_stopped hstopped]
      rfl

/-! ## Frames -/

theorem writeAll_healthy {d : Duplex} (h : d.output.Healthy) (frames : List Frame) :
    writeAll frames d = d.plus frames := by
  induction frames generalizing d with
  | nil => exact (plus_nil d).symm
  | cons f frames ih =>
      rw [← List.singleton_append, plus_append, ← ih (d := d.plus [f]) (h.plus _), writeAll,
        List.singleton_append, List.foldl_cons, write_healthy h]
      rfl

/-- A frame is written with one line feed, which is at its end. -/
theorem write_line (f : Frame) : ∃ body, Console.lineFeed ∉ body ∧ ∀ d : Duplex,
    d.output.Healthy →
      d.write f = ({ d with output := d.output.plus (body ++ [Console.lineFeed]) }, .ok ()) := by
  refine ⟨Utf8.encode f.print, lineFeed_not_mem_encode (Frame.lineFeed_not_mem_print f), ?_⟩
  intro d hd
  rw [write_healthy hd, Duplex.plus, List.flatMap_singleton, frameLine, lineOf_eq]

/-- Frames come in as they were written, however their bytes are cut. -/
theorem delivered_writeAll {d : Duplex} (hd : d.output.Healthy) {frames : List Frame}
    {chunks : List Bytes}
    (hchunks : (writeAll frames d).output.written = d.output.written ++ chunks.flatten)
    (ended : Bool) : delivered chunks ended = frames.map Inbound.frame := by
  rw [writeAll_healthy hd] at hchunks
  have hbytes : frames.flatMap frameLine = chunks.flatten := List.append_cancel_left hchunks
  rw [delivered, deliverAll_eq_deliver, ← hbytes, deliver_frameLines rfl rfl]
  cases ended with
  | false => rfl
  | true => rfl

/-- **A stream delivers the same in whatever chunks it comes.** Every frame is written as one line,
and a reader delivers exactly the frames that were written, in their order, however their bytes are
cut. Of any bytes it delivers what their lines hold, in their order, up to the first line that is
not UTF-8, and nothing after it; no chunk makes a difference. -/
theorem delivered_chunks :
    (∀ f : Frame, ∃ body, Console.lineFeed ∉ body ∧ ∀ d : Duplex, d.output.Healthy →
      d.write f = ({ d with output := d.output.plus (body ++ [Console.lineFeed]) }, .ok ()))
    ∧ (∀ (frames : List Frame) (chunks : List Bytes) (d : Duplex), d.output.Healthy →
      (writeAll frames d).output.written = d.output.written ++ chunks.flatten →
        ∀ ended, delivered chunks ended = frames.map Inbound.frame)
    ∧ (∀ (chunks others : List Bytes), chunks.flatten = others.flatten →
      ∀ d, deliverAll chunks d = deliverAll others d)
    ∧ (∀ (chunks : List Bytes) (ended : Bool),
      (∃ lines left, CutInLines chunks.flatten lines left
        ∧ delivered chunks ended =
          upToFailure ((if ended then lines ++ [left] else lines).filterMap inboundOf))
      ∧ ∀ i ∈ (delivered chunks ended).dropLast, i.isFailed = false)
    ∧ ∀ chunks : List Bytes, (delivered chunks false).any Inbound.isFailed = true →
      ∀ more ended, delivered (chunks ++ more) ended = delivered chunks false := by
  refine ⟨write_line, ?_, ?_, ?_, ?_⟩
  · intro frames chunks d hd hchunks
    exact delivered_writeAll hd hchunks
  · intro chunks others hsame d
    rw [deliverAll_eq_deliver, deliverAll_eq_deliver, hsame]
  · intro chunks ended
    obtain ⟨lines, left, hcut, hlines⟩ := delivered_lines chunks ended
    refine ⟨⟨lines, left, hcut, hlines⟩, ?_⟩
    rw [hlines]
    exact upToFailure_dropLast _
  · intro chunks hfailed
    exact delivered_append_of_failed hfailed

/-- A frame whose text has a line feed and a character of two bytes. -/
def accented : Frame :=
  .message ['é', '\n', '"']

theorem bytewise_delivered_chunks :
    (writeAll [accented] {}).output.written = [] ++ ((frameLine accented).map ([·])).flatten
      ∧ delivered ((frameLine accented).map ([·])) true = [.frame accented] := by
  have hchunks : (writeAll [accented] {}).output.written =
      [] ++ ((frameLine accented).map ([·])).flatten := by decide +kernel
  exact ⟨hchunks, delivered_chunks.2.1 [accented] _ {} ⟨rfl, rfl⟩ hchunks true⟩

end Dialogue.Duplex
