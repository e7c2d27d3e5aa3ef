import Dialogue.Proofs.Channel.Client
import Dialogue.Proofs.Channel.Inbox

/-!
# What is written stays written

Whatever is done to a sink but to end it, more bytes may be behind those that were
written, and nothing else is seen of it (`Sink.Onward`). So it is with the sink of a
console or a byte stream, until that is closed (`Duplex.request_onward`).
-/

namespace Dialogue

/-- A sink later on: more may have been written, and it has not been ended since. -/
structure Sink.Onward (s s' : Sink) : Prop where
  written : s.written <+: s'.written
  shutdowns : s'.shutdowns = s.shutdowns
  healthy : s.Healthy → s'.Healthy

namespace Sink

theorem onward_self (s : Sink) : s.Onward s :=
  ⟨List.prefix_rfl, rfl, id⟩

theorem Onward.trans {s s' s'' : Sink} (h : s.Onward s') (h' : s'.Onward s'') :
    s.Onward s'' :=
  ⟨h.written.trans h'.written, h'.shutdowns.trans h.shutdowns, h'.healthy ∘ h.healthy⟩

theorem write_onward (bytes : Bytes) (s : Sink) : s.Onward (s.write bytes).1 := by
  rw [write]
  split
  · exact ⟨List.prefix_append _ _, rfl, id⟩
  · next room hroom =>
      refine ⟨List.prefix_append _ _, rfl, fun hhealthy => ?_⟩
      rw [hhealthy.1] at hroom
      cases hroom

theorem writeFlush_onward (pieces : List Bytes) (s : Sink) :
    s.Onward (s.writeFlush pieces).1 := by
  induction pieces generalizing s with
  | nil => exact s.onward_self
  | cons piece rest ih =>
      have hpiece := s.write_onward piece
      rw [writeFlush]
      rcases hwrite : s.write piece with ⟨s', e | _⟩ <;> rw [hwrite] at hpiece
      · exact hpiece
      · exact hpiece.trans (ih s')

/-- A write that succeeds has written everything, one that fails says why. -/
theorem writeFlush_result (pieces : List Bytes) (s : Sink) :
    ((s.writeFlush pieces).2 = .ok ()
        ∧ (s.writeFlush pieces).1.written = s.written ++ pieces.flatten)
      ∨ ∃ cause, (s.writeFlush pieces).2 = .error (.io cause) := by
  induction pieces generalizing s with
  | nil =>
      rw [writeFlush, flush]
      split
      · exact .inr ⟨_, rfl⟩
      · exact .inl ⟨rfl, (List.append_nil _).symm⟩
  | cons piece rest ih =>
      have hpiece : ((s.write piece).2 = .ok ()
            ∧ (s.write piece).1.written = s.written ++ piece)
          ∨ ∃ cause, (s.write piece).2 = .error (.io cause) := by
        rw [write]
        split
        · exact .inl ⟨rfl, rfl⟩
        · dsimp only
          split
          · next hfits =>
              rw [(List.take_sublist _ _).eq_of_length hfits]
              exact .inl ⟨rfl, rfl⟩
          · exact .inr ⟨_, rfl⟩
      rw [writeFlush]
      rcases hwrite : s.write piece with ⟨s', e | _⟩ <;> rw [hwrite] at hpiece
      · exact .inr (hpiece.resolve_left (by rintro ⟨⟨⟩, -⟩))
      · obtain ⟨-, hwritten⟩ := hpiece.resolve_right (by rintro ⟨_, ⟨⟩⟩)
        refine (ih s').imp_left fun h => ⟨h.1, ?_⟩
        rw [h.2, hwritten, List.append_assoc, List.flatten_cons]

end Sink

/-- What receiving, deliveries and the end of the stream keep, waiting keeps. -/
theorem Waiting.wait_kept {τ β α : Type} {w : Waiting τ β α} {R : τ → τ → Prop}
    (hself : ∀ s, R s s) (htrans : ∀ s s' s'', R s s' → R s' s'' → R s s'')
    (hreceive : ∀ s, R s (w.receive s).1) (hdeliver : ∀ batch s, R s (w.deliver batch s))
    (hfinish : ∀ s, R s (w.finish s)) (holds : Bool) (batches : List β) (state : τ) :
    R (w.receive state).1 (w.wait holds batches state).1.1 := by
  obtain ⟨delivered, -, hwaits⟩ := w.waits_wait holds batches state
  generalize (w.wait holds batches state).1.1 = state' at hwaits ⊢
  generalize (w.wait holds batches state).2 = answer at hwaits
  induction hwaits with
  | @received s s' _ h =>
      rw [h]
      exact hself s'
  | @held s s' h =>
      rw [h]
      exact hself s'
  | @finished s s' h =>
      rw [h]
      exact htrans _ _ _ (hfinish s') (hreceive _)
  | @batch s s' _ batch _ _ h _ ih =>
      rw [h]
      exact htrans _ _ _ (hdeliver batch s') (htrans _ _ _ (hreceive _) ih)

namespace Duplex

/-- A stream later on, which has not been closed since. It has not begun to read again, and
has queued nothing but lines. -/
structure Onward (d d' : Duplex) : Prop where
  closed : d'.closed = d.closed
  output : d.output.Onward d'.output
  reading : d.reading = false → d'.reading = false
  queue : ∀ i ∈ d'.queue, i ∈ d.queue ∨ ∃ line, inboundOf line = some i

theorem onward_self (d : Duplex) : d.Onward d :=
  ⟨rfl, d.output.onward_self, id, fun _ => .inl⟩

theorem Onward.trans {d d' d'' : Duplex} (h : d.Onward d') (h' : d'.Onward d'') :
    d.Onward d'' :=
  ⟨h'.closed.trans h.closed, h.output.trans h'.output, fun hquiet => h'.reading (h.reading hquiet),
    fun i hi => (h'.queue i hi).elim (h.queue i) .inr⟩

variable {d d' : Duplex}

/-- Lines that were queued may be taken. -/
theorem Onward.take (h : d.Onward d') {queue : List Inbound} (hqueue : queue ⊆ d.queue) :
    d.Onward { d' with queue := queue } :=
  ⟨h.closed, h.output, h.reading, fun _ hi => .inl (hqueue hi)⟩

theorem write_onward (frame : Frame) (d : Duplex) : d.Onward (d.write frame).1 :=
  ⟨rfl, d.output.writeFlush_onward [Utf8.encode (frame.print ++ ['\n'])], id, fun _ => .inl⟩

/-- A frame is written with its line, or the stream says what went wrong. -/
theorem write_result (frame : Frame) (d : Duplex) :
    ((d.write frame).2 = .ok ()
        ∧ (d.write frame).1.output.written = d.output.written ++ frameLine frame)
      ∨ ∃ cause, (d.write frame).2 = .error (.io cause) := by
  have hresult := d.output.writeFlush_result [Utf8.encode (frame.print ++ ['\n'])]
  rwa [List.flatten_singleton] at hresult

theorem emit_onward (frame : Frame) (d : Duplex) : d.Onward (d.emit frame) := by
  rw [emit]
  split
  · exact d.onward_self
  · exact d.write_onward frame

theorem hear_onward (lines : List Bytes) (d : Duplex) :
    d.Onward (d.hear (lines.filterMap inboundOf)) := by
  refine ⟨hear_closed _ d, hear_output _ d ▸ d.output.onward_self, fun hquiet => ?_, ?_⟩
  · rw [hear, hquiet, if_neg Bool.false_ne_true]
    exact hquiet
  · rw [hear]
    split
    · intro i hi
      refine (List.mem_append.mp hi).imp_right fun hheard => ?_
      obtain ⟨line, -, hline⟩ := List.mem_filterMap.mp (mem_of_mem_upToFailure hheard)
      exact ⟨line, hline⟩
    · exact fun _ => .inl

theorem deliver_onward (bytes : Bytes) (d : Duplex) : d.Onward (d.deliver bytes) := by
  have hpending : d.Onward { d with pending := (linesFrom d.pending bytes).2 } :=
    ⟨rfl, d.output.onward_self, id, fun _ => .inl⟩
  rw [deliver_eq]
  exact hpending.trans (hear_onward _ _)

theorem finish_onward (d : Duplex) : d.Onward d.finish := by
  have hheard : d.Onward
      (d.hear ((if d.pending = [] then [] else [d.pending]).filterMap inboundOf)) :=
    hear_onward _ d
  have hlines : (if d.pending = [] then [] else [d.pending]).filterMap inboundOf =
      if d.pending = [] then [] else (inboundOf d.pending).toList := by
    split
    · rfl
    · rw [filterMap_inboundOf_cons, List.filterMap_nil, List.append_nil]
  rw [hlines] at hheard
  rw [finish_eq]
  exact ⟨hheard.closed, hheard.output, fun _ => rfl, hheard.queue⟩

theorem discardFrom_onward {queue : List Inbound} {d : Duplex} (hqueue : queue ⊆ d.queue) :
    d.Onward (discardFrom queue d).1 := by
  induction queue generalizing d with
  | nil => exact d.onward_self.take hqueue
  | cons i queue ih =>
      have hrest : queue ⊆ d.queue := List.Subset.trans (List.subset_cons_self i queue) hqueue
      cases i with
      | frame f => exact ih hrest
      | failed e => exact d.onward_self.take hrest
      | malformed =>
          have hreject := d.write_onward rejection
          have hkept : (d.write rejection).1.queue = d.queue := rfl
          rw [discardFrom, reject]
          rcases hwrite : d.write rejection with ⟨d', e | _⟩ <;> rw [hwrite] at hreject hkept
          · exact hreject.take hrest
          · exact hreject.trans (ih (hkept ▸ hrest))

theorem receiveFrom_onward (accept : Frame → Option Text) {queue : List Inbound}
    {d : Duplex} (hqueue : queue ⊆ d.queue) : d.Onward (receiveFrom accept queue d).1 := by
  induction queue generalizing d with
  | nil => exact d.onward_self.take hqueue
  | cons i queue ih =>
      have hrest : queue ⊆ d.queue := List.Subset.trans (List.subset_cons_self i queue) hqueue
      cases i with
      | frame f =>
          rw [receiveFrom]
          split
          · exact d.onward_self.take hrest
          · exact ih hrest
      | failed e => exact d.onward_self.take hrest
      | malformed =>
          have hreject := d.write_onward rejection
          have hkept : (d.write rejection).1.queue = d.queue := rfl
          rw [receiveFrom, reject]
          rcases hwrite : d.write rejection with ⟨d', e | _⟩ <;> rw [hwrite] at hreject hkept
          · exact hreject.take hrest
          · exact hreject.trans (ih (hkept ▸ hrest))

theorem ask_onward (prompt : Text) (d : Duplex) : d.Onward (d.ask prompt).1 := by
  have hdiscard := discardFrom_onward (d := d) (List.Subset.refl d.queue)
  rw [ask]
  split
  · exact d.onward_self
  · rcases hrest : discardFrom d.queue d with ⟨d', e | _⟩ <;> rw [hrest] at hdiscard
    · exact hdiscard
    · exact hdiscard.trans (d'.write_onward (.prompt prompt))

theorem receive_onward (accept : Frame → Option Text) (d : Duplex) :
    d.Onward (receive accept d).1 :=
  receiveFrom_onward accept (List.Subset.refl d.queue)

theorem waitFor_onward (accept : Frame → Option Text) (state : Duplex × Client Bytes) :
    state.1.Onward ((waiting accept).waitFor state).1.1 :=
  (receive_onward accept state.1).trans
    (Waiting.wait_kept (w := waiting accept) onward_self (fun _ _ _ => Onward.trans)
      (receive_onward accept) deliver_onward finish_onward
      state.2.holds state.2.batches state.1)

theorem request_onward (prompt : Text) (state : Duplex × Client Bytes) :
    state.1.Onward (request prompt state).1.1 := by
  have hask := ask_onward prompt state.1
  rw [request]
  rcases hasked : state.1.ask prompt with ⟨d, e | _⟩ <;> rw [hasked] at hask
  · exact hask
  · exact hask.trans (waitFor_onward inputOf (d, state.2))

end Duplex

end Dialogue
