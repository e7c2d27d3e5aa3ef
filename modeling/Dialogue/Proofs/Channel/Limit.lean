import Dialogue.Proofs.Channel.Onward
import Dialogue.Proofs.Session.Refusal

/-!
# Sinks that fill up

A sink that has room for so many bytes takes the beginning of what a healthy sink takes,
however the writes are cut (`Sink.Clipped.writeFlush`). A conversation does not notice that
its messages and errors are lost; it notices a request that cannot write its prompt, or an
answer to a line that is no frame. So a console or a byte stream with such a sink falters
(`Console.falters`, `Duplex.falters`), and what is written in a run is cut off at the limit,
whatever becomes of the run (`runs_clipped`).
-/

namespace Dialogue

/-! ## Sinks -/

namespace Sink

/-- What a write that does not fit comes to. -/
def overflow : ChannelError :=
  failure "sink full"

/-- A sink with room for so many bytes in all, beside one that has taken everything. -/
structure Clipped (limit : Nat) (full cut : Sink) : Prop where
  healthy : full.Healthy
  flushes : cut.flushFails = false
  written : cut.written = full.written.take limit
  room : cut.room = some (limit - full.written.length)

/-- The sink has no room left. -/
def Spent (limit : Nat) (full cut : Sink) : Prop :=
  Clipped limit full cut ∧ limit ≤ full.written.length

variable {limit : Nat} {full full' cut : Sink}

theorem clipped_new (limit : Nat) : Clipped limit {} { room := some limit } :=
  ⟨⟨rfl, rfl⟩, rfl, List.take_nil.symm, rfl⟩

/-- What is written beyond the limit makes no difference. -/
theorem Spent.onward (h : Spent limit full cut) (honward : full.Onward full') :
    Spent limit full' cut := by
  obtain ⟨⟨hhealthy, hflushes, hwritten, hroom⟩, hlimit⟩ := h
  obtain ⟨more, hmore⟩ := honward.written
  have hlonger : full.written.length ≤ full'.written.length := honward.written.length_le
  refine ⟨⟨honward.healthy hhealthy, hflushes, ?_, ?_⟩, Nat.le_trans hlimit hlonger⟩
  · rw [hwritten, ← hmore, List.take_append_of_le_length hlimit]
  · rw [hroom]
    congr 1
    omega

theorem Clipped.write (h : Clipped limit full cut) (bytes : Bytes) :
    Clipped limit (full.plus bytes) (cut.write bytes).1
      ∧ ((cut.write bytes).2 = .ok ()
        ∨ (cut.write bytes).2 = .error overflow
          ∧ limit ≤ (full.plus bytes).written.length) := by
  have hlength : (bytes.take (limit - full.written.length)).length =
      min (limit - full.written.length) bytes.length := List.length_take
  rw [Sink.write, h.room]
  refine ⟨⟨h.healthy.plus bytes, h.flushes, ?_, ?_⟩, ?_⟩
  · rw [plus_written, List.take_append, ← h.written]
  · rw [plus_written, List.length_append]
    dsimp only
    congr 1
    omega
  · dsimp only
    split
    · exact .inl rfl
    · refine .inr ⟨rfl, ?_⟩
      rw [plus_written, List.length_append]
      omega

theorem Clipped.writeFlush (h : Clipped limit full cut) (pieces : List Bytes) :
    Clipped limit (full.plus pieces.flatten) (cut.writeFlush pieces).1
      ∧ ((cut.writeFlush pieces).2 = .ok ()
        ∨ (cut.writeFlush pieces).2 = .error overflow
          ∧ limit ≤ (full.plus pieces.flatten).written.length) := by
  induction pieces generalizing full cut with
  | nil =>
      rw [Sink.writeFlush, flush, h.flushes, if_neg Bool.false_ne_true, List.flatten_nil, plus,
        List.append_nil]
      exact ⟨h, .inl rfl⟩
  | cons piece rest ih =>
      have hsplit : full.plus (piece :: rest).flatten = (full.plus piece).plus rest.flatten := by
        rw [List.flatten_cons, plus, plus, plus, List.append_assoc]
      obtain ⟨hclipped, hresult⟩ := h.write piece
      rw [hsplit, Sink.writeFlush]
      rcases hwrite : cut.write piece with ⟨cut', e | _⟩ <;> rw [hwrite] at hclipped hresult
      · -- The pieces behind are written to the one sink only.
        obtain ⟨he, hlimit⟩ := hresult.resolve_left (by rintro ⟨⟩)
        have honward : (full.plus piece).Onward ((full.plus piece).plus rest.flatten) :=
          ⟨List.prefix_append _ _, rfl, fun hhealthy => hhealthy.plus _⟩
        obtain ⟨hclipped', hlimit'⟩ := Spent.onward ⟨hclipped, hlimit⟩ honward
        exact ⟨hclipped', .inr ⟨he, hlimit'⟩⟩
      · exact ih hclipped

/-- A sink without room stays as it is. -/
theorem writeFlush_of_noRoom (h : cut.room = some 0) (pieces : List Bytes) :
    (cut.writeFlush pieces).1 = cut := by
  have hwrite (piece : Bytes) : (cut.write piece).1 = cut := by
    obtain ⟨written, room, flushFails, shutdownFails, shutdowns⟩ := cut
    cases h
    rw [Sink.write]
    dsimp only
    rw [List.take_zero, List.append_nil, List.length_nil]
  induction pieces with
  | nil => rfl
  | cons piece rest ih =>
      have hpiece := hwrite piece
      rw [Sink.writeFlush]
      rcases hresult : cut.write piece with ⟨cut', e | _⟩ <;> rw [hresult] at hpiece
      · exact hpiece
      · cases hpiece
        exact ih

theorem Spent.writeFlush (h : Spent limit full cut) (pieces : List Bytes) :
    Spent limit full (cut.writeFlush pieces).1 := by
  have hroom : cut.room = some 0 := by
    rw [h.1.room, Nat.sub_eq_zero_of_le h.2]
  rwa [writeFlush_of_noRoom hroom]

end Sink

/-! ## The console -/

namespace Console

/-- A console with such a sink, beside one with a sink that takes everything. What becomes of
the errors is left open. -/
structure Beside (limit : Nat) (c d : Console) : Prop where
  input : d.input = c.input
  closed : d.closed = c.closed
  output : c.output.Clipped limit d.output

variable {limit : Nat} {c d : Console} {text prompt : Text}

theorem message_onward (text : Text) (c : Console) :
    c.output.Onward (c.message text).output := by
  rw [message]
  split
  · exact c.output.onward_self
  · exact c.output.writeFlush_onward _

theorem error_output (text : Text) (c : Console) : (c.error text).output = c.output := by
  rw [error]
  split <;> rfl

theorem close_output (c : Console) : c.close.output = c.output := by
  rw [close]
  split <;> rfl

theorem readLine_output (c : Console) : c.readLine.1.output = c.output := by
  rw [readLine]
  dsimp only
  split <;> rfl

theorem request_onward (prompt : Text) (c : Console) :
    c.output.Onward (c.request prompt).1.output := by
  have hwrite := c.output.writeFlush_onward [Utf8.encode prompt]
  rw [request]
  split
  · exact c.output.onward_self
  · rcases hresult : c.output.writeFlush [Utf8.encode prompt] with ⟨output, e | _⟩ <;>
      rw [hresult] at hwrite
    · exact hwrite
    · dsimp only
      rw [readLine_output]
      exact hwrite

theorem Beside.message (h : c.Beside limit d) (text : Text) :
    (c.message text).Beside limit (d.message text) := by
  rw [Console.message, Console.message, h.closed]
  split
  · exact h
  · refine ⟨h.input, rfl, ?_⟩
    rw [h.output.healthy.writeFlush]
    exact (h.output.writeFlush _).1

theorem Beside.error (h : c.Beside limit d) (text : Text) :
    (c.error text).Beside limit (d.error text) := by
  rw [Console.error, Console.error, h.closed]
  split
  · exact h
  · exact ⟨h.input, rfl, h.output⟩

theorem Beside.close (h : c.Beside limit d) : c.close.Beside limit d.close := by
  rw [Console.close, Console.close, h.closed]
  split
  · exact h
  · exact ⟨h.input, rfl, h.output⟩

theorem Beside.readLine (h : c.Beside limit d) :
    d.readLine.2 = c.readLine.2 ∧ c.readLine.1.Beside limit d.readLine.1 := by
  rw [Console.readLine, Console.readLine, h.input]
  dsimp only
  split
  · exact ⟨rfl, h⟩
  · exact ⟨rfl, rfl, h.closed, h.output⟩

theorem Beside.request (h : c.Beside limit d) (prompt : Text) :
    ((d.request prompt).2 = (c.request prompt).2
        ∧ (c.request prompt).1.Beside limit (d.request prompt).1)
      ∨ ((d.request prompt).2 = .error Sink.overflow
        ∧ (c.request prompt).1.output.Spent limit (d.request prompt).1.output) := by
  obtain ⟨hclipped, hresult⟩ := h.output.writeFlush [Utf8.encode prompt]
  rw [Console.request, Console.request, h.closed, h.output.healthy.writeFlush]
  split
  · exact .inl ⟨rfl, h⟩
  · rcases hwrite : d.output.writeFlush [Utf8.encode prompt] with ⟨cut, e | _⟩ <;>
      rw [hwrite] at hclipped hresult
    · obtain ⟨he, hlimit⟩ := hresult.resolve_left (by rintro ⟨⟩)
      cases he
      refine .inr ⟨rfl, ?_⟩
      dsimp only
      rw [readLine_output]
      exact ⟨hclipped, hlimit⟩
    · exact .inl (Beside.readLine ⟨h.input, rfl, hclipped⟩)

theorem falters (limit : Nat) :
    channel.Falters Sink.overflow (Beside limit) fun c d => c.output.Spent limit d.output where
  message text h := ⟨rfl, h.message text⟩
  error text h := ⟨rfl, h.error text⟩
  close h := ⟨rfl, h.close⟩
  input prompt h := (h.request prompt).imp (fun h => ⟨congrArg some h.1, h.2⟩)
    fun h => ⟨congrArg some h.1, h.2⟩
  onward {c d} h := by
    refine ⟨fun text => h.onward (c.message_onward text), fun text => ?_,
      fun prompt => h.onward (c.request_onward prompt), ?_⟩
    · show (c.error text).output.Spent limit d.output
      rwa [error_output]
    · show c.close.output.Spent limit d.output
      rwa [close_output]
  report {c d} text h := by
    refine ⟨rfl, ?_⟩
    show c.output.Spent limit (d.error text).output
    rwa [error_output]
  farewell {c d} h := by
    refine ⟨rfl, ?_⟩
    show c.output.Spent limit d.close.output
    rwa [close_output]

end Console

/-! ## Waiting -/

/-- A wait falters as receiving does. When the second has been refused it waits no longer,
and what the first goes on with makes no difference. -/
theorem Waiting.wait_falters {τ β α : Type} {w : Waiting τ β α} {Open : τ → τ → Prop}
    (Spent : τ → τ → Prop) {a : α}
    (hreceive : ∀ s t, Open s t →
      ((w.receive t).2 = (w.receive s).2 ∧ Open (w.receive s).1 (w.receive t).1)
        ∨ ((w.receive t).2 = some a ∧ Spent (w.receive s).1 (w.receive t).1))
    (hdeliver : ∀ batch s t, Open s t → Open (w.deliver batch s) (w.deliver batch t))
    (hfinish : ∀ s t, Open s t → Open (w.finish s) (w.finish t))
    (hspent : ∀ holds batches s t, Spent (w.receive s).1 t →
      Spent (w.wait holds batches s).1.1 t)
    (holds : Bool) (batches : List β) {s t : τ} (h : Open s t) :
    ((w.wait holds batches t).2 = (w.wait holds batches s).2
        ∧ (w.wait holds batches t).1.2 = (w.wait holds batches s).1.2
        ∧ Open (w.wait holds batches s).1.1 (w.wait holds batches t).1.1)
      ∨ ((w.wait holds batches t).2 = some a
        ∧ Spent (w.wait holds batches s).1.1 (w.wait holds batches t).1.1) := by
  have hanswered (batches : List β) {s t t' : τ} {reply : α} (h : Open s t)
      (ht : w.receive t = (t', some reply)) :
      (some reply = (w.wait holds batches s).2 ∧ batches = (w.wait holds batches s).1.2
          ∧ Open (w.wait holds batches s).1.1 t')
        ∨ (some reply = some a ∧ Spent (w.wait holds batches s).1.1 t') := by
    have hfirst := hreceive s t h
    rw [ht] at hfirst
    rcases hfirst with ⟨hsame, hopen⟩ | ⟨hrefused, hleft⟩
    · have hs : w.receive s = ((w.receive s).1, some reply) := Prod.ext rfl hsame.symm
      rw [wait_received hs]
      exact .inl ⟨rfl, rfl, hopen⟩
    · exact .inr ⟨hrefused, hspent holds batches s t' hleft⟩
  have hunanswered {s t t' : τ} (h : Open s t) (ht : w.receive t = (t', none)) :
      ∃ s', w.receive s = (s', none) ∧ Open s' t' := by
    have hfirst := hreceive s t h
    rw [ht] at hfirst
    obtain ⟨hsame, hopen⟩ := hfirst.resolve_right (by rintro ⟨⟨⟩, -⟩)
    exact ⟨_, Prod.ext rfl hsame.symm, hopen⟩
  induction batches generalizing s t with
  | nil =>
      rcases ht : w.receive t with ⟨t', _ | reply⟩
      · obtain ⟨s', hs, hopen⟩ := hunanswered h ht
        cases holds with
        | true =>
            rw [wait_hold hs, wait_hold ht]
            exact .inl ⟨rfl, rfl, hopen⟩
        | false =>
            rw [wait_finish hs, wait_finish ht]
            exact (hreceive _ _ (hfinish _ _ hopen)).imp_left fun h => ⟨h.1, rfl, h.2⟩
      · rw [wait_received ht]
        exact hanswered [] h ht
  | cons batch rest ih =>
      rcases ht : w.receive t with ⟨t', _ | reply⟩
      · obtain ⟨s', hs, hopen⟩ := hunanswered h ht
        rw [wait_batch hs, wait_batch ht]
        exact ih (hdeliver batch _ _ hopen)
      · rw [wait_received ht]
        exact hanswered (batch :: rest) h ht

/-! ## The byte stream -/

namespace Duplex

/-- A byte stream with such a sink, beside one with a sink that takes everything. -/
def Beside (limit : Nat) (d d' : Duplex) : Prop :=
  ∃ cut, d' = { d with output := cut } ∧ d.output.Clipped limit cut

/-- What comes of doing the same with both: the same, unless the second one is refused. -/
def Abreast {α : Type} (limit : Nat) (refused : α) (p p' : Duplex × α) : Prop :=
  (p'.2 = p.2 ∧ p.1.Beside limit p'.1) ∨ (p'.2 = refused ∧ p.1.output.Spent limit p'.1.output)

variable {limit : Nat} {d d' : Duplex}

theorem Beside.output (h : d.Beside limit d') : d.output.Clipped limit d'.output := by
  obtain ⟨cut, rfl, hclipped⟩ := h
  exact hclipped

theorem Beside.withQueue (h : d.Beside limit d') (queue : List Inbound) :
    Beside limit { d with queue := queue } { d' with queue := queue } := by
  obtain ⟨cut, rfl, hclipped⟩ := h
  exact ⟨cut, rfl, hclipped⟩

theorem Beside.write (h : d.Beside limit d') (f : Frame) :
    (d.plus [f]).Beside limit (d'.write f).1
      ∧ ((d'.write f).2 = .ok ()
        ∨ (d'.write f).2 = .error Sink.overflow
          ∧ (d.plus [f]).output.Spent limit (d'.write f).1.output) := by
  obtain ⟨cut, rfl, hclipped⟩ := h
  have hpieces := hclipped.writeFlush [frameLine f]
  rw [List.flatten_singleton] at hpieces
  obtain ⟨hclipped', hresult⟩ := hpieces
  rw [plus, List.flatMap_singleton]
  exact ⟨⟨_, rfl, hclipped'⟩, hresult.imp_right fun h => ⟨h.1, hclipped', h.2⟩⟩

theorem Beside.write_abreast (h : d.Beside limit d') (f : Frame) :
    Abreast limit (.error Sink.overflow) (d.write f) (d'.write f) := by
  obtain ⟨hbeside, hresult⟩ := h.write f
  rw [write_healthy h.output.healthy]
  exact hresult.imp (fun hok => ⟨hok, hbeside⟩) id

theorem Beside.emit (h : d.Beside limit d') (f : Frame) :
    (d.emit f).Beside limit (d'.emit f) := by
  have hclosed : d'.closed = d.closed := by
    obtain ⟨cut, rfl, -⟩ := h
    rfl
  rw [Duplex.emit, Duplex.emit, hclosed, write_healthy h.output.healthy]
  split
  · exact h
  · exact (h.write f).1

theorem Beside.hear (h : d.Beside limit d') (is : List Inbound) :
    (d.hear is).Beside limit (d'.hear is) := by
  obtain ⟨cut, rfl, hclipped⟩ := h
  refine ⟨cut, ?_, by rwa [hear_output]⟩
  rw [Duplex.hear, Duplex.hear]
  split <;> rfl

theorem Beside.deliver (h : d.Beside limit d') (bytes : Bytes) :
    (d.deliver bytes).Beside limit (d'.deliver bytes) := by
  obtain ⟨cut, rfl, hclipped⟩ := h
  rw [deliver_eq, deliver_eq]
  exact Beside.hear (d := { d with pending := (linesFrom d.pending bytes).2 })
    ⟨cut, rfl, hclipped⟩ _

theorem Beside.finish (h : d.Beside limit d') : d.finish.Beside limit d'.finish := by
  obtain ⟨cut, rfl, hclipped⟩ := h
  obtain ⟨cut', hsame, hclipped'⟩ :=
    Beside.hear ⟨cut, rfl, hclipped⟩ (if d.pending = [] then [] else (inboundOf d.pending).toList)
  rw [finish_eq, finish_eq]
  exact ⟨cut', by rw [hsame], hclipped'⟩

theorem Beside.discardFrom (h : d.Beside limit d') {queue : List Inbound}
    (hqueue : queue ⊆ d.queue) :
    Abreast limit (.error Sink.overflow) (discardFrom queue d) (discardFrom queue d') := by
  induction queue generalizing d d' with
  | nil => exact .inl ⟨rfl, h.withQueue []⟩
  | cons i queue ih =>
      have hrest : queue ⊆ d.queue := List.Subset.trans (List.subset_cons_self i queue) hqueue
      cases i with
      | frame f => exact ih h hrest
      | failed e => exact .inl ⟨rfl, h.withQueue queue⟩
      | malformed =>
          obtain ⟨hbeside, hresult⟩ := h.write rejection
          rw [Duplex.discardFrom, Duplex.discardFrom, reject_healthy h.output.healthy, reject]
          rcases hwrite : d'.write rejection with ⟨d'', e | _⟩ <;> rw [hwrite] at hbeside hresult
          · obtain ⟨he, hspent⟩ := hresult.resolve_left (by rintro ⟨⟩)
            cases he
            have honward := discardFrom_onward (d := d.plus [rejection]) hrest
            exact .inr ⟨rfl, hspent.onward honward.output⟩
          · exact ih hbeside hrest

theorem Beside.receiveFrom (h : d.Beside limit d') (accept : Frame → Option Text)
    {queue : List Inbound} (hqueue : queue ⊆ d.queue) :
    Abreast limit (some (.error Sink.overflow)) (receiveFrom accept queue d)
      (receiveFrom accept queue d') := by
  induction queue generalizing d d' with
  | nil =>
      obtain ⟨cut, rfl, hclipped⟩ := h
      exact .inl ⟨rfl, cut, rfl, hclipped⟩
  | cons i queue ih =>
      have hrest : queue ⊆ d.queue := List.Subset.trans (List.subset_cons_self i queue) hqueue
      cases i with
      | frame f =>
          rw [Duplex.receiveFrom, Duplex.receiveFrom]
          split
          · exact .inl ⟨rfl, h.withQueue queue⟩
          · exact ih h hrest
      | failed e => exact .inl ⟨rfl, h.withQueue queue⟩
      | malformed =>
          obtain ⟨hbeside, hresult⟩ := h.write rejection
          rw [Duplex.receiveFrom, Duplex.receiveFrom, reject_healthy h.output.healthy, reject]
          rcases hwrite : d'.write rejection with ⟨d'', e | _⟩ <;> rw [hwrite] at hbeside hresult
          · obtain ⟨he, hspent⟩ := hresult.resolve_left (by rintro ⟨⟩)
            cases he
            have honward := receiveFrom_onward accept (d := d.plus [rejection]) hrest
            exact .inr ⟨rfl, hspent.onward honward.output⟩
          · exact ih hbeside hrest

theorem Beside.receive (h : d.Beside limit d') (accept : Frame → Option Text) :
    Abreast limit (some (.error Sink.overflow)) (receive accept d) (receive accept d') := by
  have hqueue : d'.queue = d.queue := by
    obtain ⟨cut, rfl, -⟩ := h
    rfl
  rw [Duplex.receive, Duplex.receive, hqueue]
  exact h.receiveFrom accept (List.Subset.refl d.queue)

theorem Beside.waitFor (h : d.Beside limit d') (accept : Frame → Option Text)
    (client : Client Bytes) :
    let p := (waiting accept).waitFor (d, client)
    let p' := (waiting accept).waitFor (d', client)
    (p'.2 = p.2 ∧ p'.1.2 = p.1.2 ∧ p.1.1.Beside limit p'.1.1)
      ∨ (p'.2 = some (.error Sink.overflow) ∧ p.1.1.output.Spent limit p'.1.1.output) := by
  intro p p'
  have hspent (holds : Bool) (batches : List Bytes) (d d' : Duplex)
      (hspent : (Duplex.receive accept d).1.output.Spent limit d'.output) :
      ((waiting accept).wait holds batches d).1.1.output.Spent limit d'.output :=
    hspent.onward (Waiting.wait_kept (w := waiting accept) onward_self (fun _ _ _ => Onward.trans)
      (receive_onward accept) deliver_onward finish_onward holds batches d).output
  have hreceive (d d' : Duplex) (h : d.Beside limit d') :
      Abreast limit (some (.error Sink.overflow)) (Duplex.receive accept d)
        (Duplex.receive accept d') :=
    h.receive accept
  have hwait := Waiting.wait_falters (w := waiting accept)
    (fun d d' => d.output.Spent limit d'.output) hreceive (fun batch _ _ h => h.deliver batch)
    (fun _ _ h => h.finish) hspent client.holds client.batches h
  exact hwait.imp_left fun ⟨hanswer, hbatches, hbeside⟩ =>
    ⟨hanswer, congrArg (Client.mk · client.holds) hbatches, hbeside⟩

theorem Beside.ask (h : d.Beside limit d') (prompt : Text) :
    Abreast limit (.error Sink.overflow) (d.ask prompt) (d'.ask prompt) := by
  have hqueue : d'.queue = d.queue ∧ d'.closed = d.closed := by
    obtain ⟨cut, rfl, -⟩ := h
    exact ⟨rfl, rfl⟩
  have hdiscard := h.discardFrom (List.Subset.refl d.queue)
  rw [Duplex.ask, Duplex.ask, hqueue.1, hqueue.2]
  split
  · exact .inl ⟨rfl, h⟩
  rcases hfirst : Duplex.discardFrom d.queue d with ⟨e, r⟩
  rcases hsecond : Duplex.discardFrom d.queue d' with ⟨e', r'⟩
  rw [hfirst, hsecond] at hdiscard
  rcases hdiscard with ⟨rfl, hbeside⟩ | ⟨rfl, hspent⟩
  · rcases r' with e | _
    · exact .inl ⟨rfl, hbeside⟩
    · exact hbeside.write_abreast (.prompt prompt)
  · refine .inr ⟨rfl, ?_⟩
    rcases r with e | _
    · exact hspent
    · exact hspent.onward (e.write_onward (.prompt prompt)).output

theorem Beside.request (h : d.Beside limit d') (prompt : Text) (client : Client Bytes) :
    let p := request prompt (d, client)
    let p' := request prompt (d', client)
    (p'.2 = p.2 ∧ p'.1.2 = p.1.2 ∧ p.1.1.Beside limit p'.1.1)
      ∨ (p'.2 = some (.error Sink.overflow) ∧ p.1.1.output.Spent limit p'.1.1.output) := by
  have hask := h.ask prompt
  rw [Duplex.request, Duplex.request]
  rcases hfirst : d.ask prompt with ⟨e, r⟩
  rcases hsecond : d'.ask prompt with ⟨e', r'⟩
  rw [hfirst, hsecond] at hask
  rcases hask with ⟨rfl, hbeside⟩ | ⟨rfl, hspent⟩
  · rcases r' with e | _
    · exact .inl ⟨rfl, rfl, hbeside⟩
    · exact hbeside.waitFor inputOf client
  · refine .inr ⟨rfl, ?_⟩
    rcases r with e | _
    · exact hspent
    · exact hspent.onward (waitFor_onward inputOf (e, client)).output

theorem Beside.close (h : d.Beside limit d') : d.close.Beside limit d'.close := by
  obtain ⟨cut, rfl, hclipped⟩ := h
  rw [Duplex.close, Duplex.close]
  split
  · exact ⟨cut, rfl, hclipped⟩
  · exact ⟨_, rfl, hclipped.healthy, hclipped.flushes, hclipped.written, hclipped.room⟩

theorem spent_close_left (h : d.output.Spent limit d'.output) :
    d.close.output.Spent limit d'.output := by
  rw [Duplex.close]
  split
  · exact h
  · exact ⟨⟨h.1.healthy, h.1.flushes, h.1.written, h.1.room⟩, h.2⟩

theorem spent_close_right (h : d.output.Spent limit d'.output) :
    d.output.Spent limit d'.close.output := by
  rw [Duplex.close]
  split
  · exact h
  · exact ⟨⟨h.1.healthy, h.1.flushes, h.1.written, h.1.room⟩, h.2⟩

theorem spent_emit (h : d.output.Spent limit d'.output) (f : Frame) :
    d.output.Spent limit (d'.emit f).output := by
  rw [Duplex.emit]
  split
  · exact h
  · exact h.writeFlush [frameLine f]

theorem falters (limit : Nat) :
    channel.Falters Sink.overflow (fun s t => t.2 = s.2 ∧ s.1.Beside limit t.1)
      fun s t => s.1.output.Spent limit t.1.output where
  message text h := ⟨rfl, h.1, h.2.emit (.message text)⟩
  error text h := ⟨rfl, h.1, h.2.emit (.error text)⟩
  close h := ⟨rfl, h.1, h.2.close⟩
  input {s t} prompt h := by
    obtain ⟨d, client⟩ := s
    obtain ⟨d', client'⟩ := t
    obtain ⟨rfl, hbeside⟩ := h
    exact hbeside.request prompt _
  onward {s t} h := ⟨fun text => h.onward (emit_onward (.message text) s.1).output,
    fun text => h.onward (emit_onward (.error text) s.1).output,
    fun prompt => h.onward (request_onward prompt s).output, spent_close_left h⟩
  report text h := ⟨rfl, spent_emit h (.error text)⟩
  farewell h := ⟨rfl, spent_close_right h⟩

end Duplex

/-! ## Runs -/

variable {τ φ : Type}

/-- A run whose output went to a sink with room for so many bytes, beside the run whose sink
takes everything. -/
structure Run.Clipped (limit : Nat) (output : τ → Sink) (r r' : Run (τ × φ)) : Prop where
  returned : ∃ t, r'.stop = .returned t
  written : (output r'.world.1).written = (output r.world.1).written.take limit
  unharmed : (∀ prompt, ⟨.input prompt, .error Sink.overflow⟩ ∉ r'.exchanges) →
    r'.session = r.session ∧ r'.exchanges = r.exchanges ∧ r'.stop = r.stop
  course : r.CutShort Sink.overflow r'

theorem Run.CutShort.clipped {limit : Nat} {output : τ → Sink} {r r' : Run (τ × φ)}
    {t : Termination} (h : r.CutShort Sink.overflow r') (hreturned : r.stop = .returned t)
    (hwritten : (output r'.world.1).written = (output r.world.1).written.take limit) :
    r.Clipped limit output r' := by
  refine ⟨?_, hwritten, fun hnone => ?_, h⟩
  · cases h with
    | unharmed _ _ _ stop => exact ⟨t, stop.trans hreturned⟩
    | refused _ _ stop => exact ⟨_, stop⟩
  · cases h with
    | unharmed _ session exchanges stop => exact ⟨session, exchanges, stop⟩
    | @refused _ _ _ prompt _ _ exchanges _ =>
        have hrefused : ⟨.input prompt, .error Sink.overflow⟩ ∈ r'.exchanges := by
          rw [exchanges]
          exact List.mem_append_right _ List.mem_cons_self
        exact absurd hrefused (hnone prompt)

/-- **Output is cut off at the limit.** Take a run of any session that returns over a console,
or over a byte stream, whose sink takes everything. With a sink that has room for so many
bytes in all, and fails every later write that is not empty, the run returns as well, and has
written exactly the beginning of the same bytes, as far as there is room. If no request
failed because of the sink, it is the same run: the same blocks, variables, answers and
ending, whatever messages and errors were lost. Otherwise it is the same run up to such a
request, and that failure is its ending. For the console it makes no difference what becomes
of the errors. -/
theorem runs_clipped (fetch : Text → φ → φ × Option Response) (fetcher : φ) (s : Session)
    (blocks limit : Nat) (t : Termination) :
    (∀ (c : Console) (errors : Sink),
      let env := Console.channel.environmentWith fetch
      let r := s.run env blocks ({ c with output := {} }, fetcher)
      let r' := s.run env blocks
        ({ c with output := { room := some limit }, errors := errors }, fetcher)
      r.stop = .returned t → r.Clipped limit Console.output r')
    ∧ ∀ (d : Duplex) (client : Client Bytes),
      let env := Duplex.channel.environmentWith fetch
      let r := s.run env blocks (({ d with output := {} }, client), fetcher)
      let r' := s.run env blocks (({ d with output := { room := some limit } }, client), fetcher)
      r.stop = .returned t → r.Clipped limit (fun state => state.1.output) r' := by
  constructor
  · intro c errors env r r' hreturned
    have hbeside : Console.Beside limit { c with output := {} }
        { c with output := { room := some limit }, errors := errors } :=
      ⟨rfl, rfl, Sink.clipped_new limit⟩
    obtain ⟨hcut, hworlds⟩ := (Console.falters limit).run hbeside hreturned
    refine hcut.clipped hreturned ?_
    exact hworlds.elim (fun h => h.output.written) fun h => h.1.written
  · intro d client env r r' hreturned
    have hbeside : Duplex.Beside limit { d with output := {} }
        { d with output := { room := some limit } } :=
      ⟨_, rfl, Sink.clipped_new limit⟩
    obtain ⟨hcut, hworlds⟩ := (Duplex.falters limit).run (c := ({ d with output := {} }, client))
      (d := ({ d with output := { room := some limit } }, client)) ⟨rfl, hbeside⟩ hreturned
    refine hcut.clipped hreturned ?_
    exact hworlds.elim (fun h => h.2.output.written) fun h => h.1.written

/-- The greeting of a user who types his name. -/
def greetingTyped (output : Sink) : Run (Console × Fetcher) :=
  (Session.start greetingFlow {}).run (Console.channel.environmentWith Fetcher.fetch) 5
    ({ input := lineOf ['A'], output }, .offline)

/-- The greeting of a user who sends his name in a frame. -/
def greetingFramed (output : Sink) : Run ((Duplex × Client Bytes) × Fetcher) :=
  (Session.start greetingFlow {}).run (Duplex.channel.environmentWith Fetcher.fetch) 5
    (({ output }, ⟨[Duplex.frameLine (.input ['A'])], false⟩), .offline)

/-- There is room for the prompt only on the console, and for nothing on the stream. -/
theorem greeting_clipped :
    (greetingTyped {}).stop = .returned (.completed .endBlock)
      ∧ (greetingFramed {}).stop = .returned (.completed .endBlock)
      ∧ (greetingTyped {}).Clipped 30 Console.output (greetingTyped { room := some 30 })
      ∧ (greetingTyped { room := some 30 }).stop = .returned (.completed .endBlock)
      ∧ (greetingFramed {}).Clipped 0 (fun state => state.1.output)
        (greetingFramed { room := some 0 })
      ∧ (greetingFramed { room := some 0 }).stop =
        .returned (.failed (.channel Sink.overflow)) := by
  have htyped : (greetingTyped {}).stop = .returned (.completed .endBlock) := by decide +kernel
  have hframed : (greetingFramed {}).stop = .returned (.completed .endBlock) := by decide +kernel
  refine ⟨htyped, hframed, ?_, by decide +kernel, ?_, by decide +kernel⟩
  · exact (runs_clipped Fetcher.fetch .offline (Session.start greetingFlow {}) 5 30 _).1
      { input := lineOf ['A'] } {} htyped
  · exact (runs_clipped Fetcher.fetch .offline (Session.start greetingFlow {}) 5 0 _).2
      {} ⟨[Duplex.frameLine (.input ['A'])], false⟩ hframed

end Dialogue
