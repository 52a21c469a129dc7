import TokenEcho.Proofs.Session.Early

/-!
# An output that runs full

An output with room for so many bytes is compared with the same output without a limit. As long as
all fits, the two runs are one; otherwise the session stops in the middle of what it writes, with
the part that fits on the output and nothing but what came before beside it. `Bounded` says this of
a session that is any part of a run. Parts that leave the output alone are bounded, writing is, and
two bounded parts in a row are, so the main statement `cutAt_ofOptions` is read off how a session is
put together.
-/

namespace TokenEcho

namespace Sink

/-- The sink with room for so many more bytes. -/
def withRoom (sink : Sink) (room : Nat) : Sink := { sink with room? := some room }

@[simp] theorem written_withRoom (sink : Sink) (room : Nat) :
    (sink.withRoom room).written = sink.written := rfl

theorem write_withRoom (sink : Sink) (room : Nat) (text : String) :
    (sink.withRoom room).write text =
      if (Text.encode text).length ≤ room then
        (true, (sink.pushAll [text]).withRoom (room - (Text.encode text).length))
      else (false, (sink.push ((Text.encode text).take room)).withRoom 0) := rfl

theorem write_eq_writeAll (sink : Sink) (text : String) :
    sink.write text = sink.writeAll [text] := by
  rw [writeAll]
  split <;> next heq => exact heq

theorem writeAll_of_fits {texts : List String} {room : Nat}
    (hfits : (texts.flatMap Text.encode).length ≤ room) (sink : Sink) :
    (sink.withRoom room).writeAll texts =
      (true, (sink.pushAll texts).withRoom (room - (texts.flatMap Text.encode).length)) := by
  induction texts generalizing sink room with
  | nil => rfl
  | cons text rest ih =>
      rw [List.flatMap_cons, List.length_append] at hfits ⊢
      rw [writeAll, write_withRoom, if_pos (by omega)]
      dsimp only
      rw [ih (by omega), ← pushAll_append, List.singleton_append, Nat.sub_sub]

theorem writeAll_of_full {texts : List String} {room : Nat}
    (hfull : room < (texts.flatMap Text.encode).length) (sink : Sink) :
    ∃ cut, (sink.withRoom room).writeAll texts = (false, cut) ∧
      cut.written = sink.written ++ (texts.flatMap Text.encode).take room := by
  induction texts generalizing sink room with
  | nil => exact absurd hfull (Nat.not_lt_zero _)
  | cons text rest ih =>
      rw [List.flatMap_cons, List.length_append] at hfull
      rw [writeAll, write_withRoom, List.flatMap_cons]
      by_cases hfits : (Text.encode text).length ≤ room
      · have hless : room - (Text.encode text).length < (rest.flatMap Text.encode).length := by
          omega
        obtain ⟨cut, hcut, hwritten⟩ := ih hless (sink.pushAll [text])
        refine ⟨cut, ?_, ?_⟩
        · rw [if_pos hfits]
          exact hcut
        · rw [hwritten, written_pushAll, Text.encode_join, List.flatMap_singleton, List.take_append,
            List.take_of_length_le hfits, List.append_assoc]
      · refine ⟨_, by rw [if_neg hfits], ?_⟩
        rw [written_withRoom, written_push, List.take_append_of_le_length (by omega)]

end Sink

namespace Streams

/-- The streams with an output that has room for so many more bytes. -/
def withRoom (streams : Streams) (room : Nat) : Streams :=
  { streams with output := streams.output.withRoom room }

end Streams

namespace Session

variable {α β : Type} {s : Session α} {streams after : Streams} {result : Except SessionError α}
  {bytes : List UInt8}

/-! ### One part of a run -/

/-- A run without a limit that writes so many bytes, and what a limit makes of it. -/
structure Writes (s : Session α) (streams : Streams) (result : Except SessionError α)
    (after : Streams) (bytes : List UInt8) : Prop where
  run : s.run streams = (result, after)
  room : after.output.room? = none
  written : after.output.written = streams.output.written ++ bytes
  remarks : streams.remarks <+: after.remarks
  fits : ∀ room, bytes.length ≤ room →
    s.run (streams.withRoom room) = (result, after.withRoom (room - bytes.length))
  full : ∀ room, room < bytes.length → ∃ cut,
    s.run (streams.withRoom room) = (.error (.stream .full), cut) ∧
      cut.output.written = streams.output.written ++ bytes.take room ∧
      cut.remarks <+: after.remarks

/-- A limit on the output does nothing to a session but cut it short. -/
def Bounded (s : Session α) : Prop :=
  ∀ streams : Streams, streams.output.room? = none →
    ∃ result after bytes, Writes s streams result after bytes

/-- A session that leaves the output alone, and whose result depends on the input only. -/
def Silent (s : Session α) : Prop :=
  ∀ input, ∃ result left remarks, ∀ streams : Streams, streams.input = input →
    s.run streams = (result, (streams.reading left).adding [] remarks)

theorem Silent.bounded (h : Silent s) : Bounded s := by
  intro streams hroom
  obtain ⟨result, left, remarks, hrun⟩ := h streams.input
  refine ⟨result, _, [], hrun streams rfl, hroom, ?_, List.prefix_append _ _, ?_, ?_⟩
  · exact (List.append_nil _).symm
  · intro room _
    exact hrun (streams.withRoom room) rfl
  · intro room hlt
    exact absurd hlt (Nat.not_lt_zero _)

theorem Bounded.of_adding {remarks : List Remark}
    (h : ∀ streams : Streams, s.run streams = (result, streams.adding [] remarks)) : Bounded s := by
  apply Silent.bounded
  intro input
  refine ⟨result, input, remarks, ?_⟩
  rintro streams rfl
  exact h streams

theorem bounded_emit {write : Sink → Bool × Sink} {texts : List String}
    (hwrite : ∀ sink, write sink = sink.writeAll texts) : Bounded (emit write) := by
  intro streams hroom
  refine ⟨.ok (), streams.adding texts [], texts.flatMap Text.encode, ?_, hroom, ?_,
    List.prefix_append _ _, ?_, ?_⟩
  · exact run_emit ((hwrite _).trans (Sink.writeAll_of_unlimited hroom texts))
  · rw [Streams.adding, Sink.written_pushAll, Text.encode_join]
  · intro room hfits
    rw [run_emit_of_write ((hwrite _).trans (Sink.writeAll_of_fits hfits streams.output)),
      Streams.adding, List.append_nil]
    rfl
  · intro room hfull
    obtain ⟨cut, hcut, hwritten⟩ := Sink.writeAll_of_full hfull streams.output
    have hcut : write (streams.withRoom room).output = (false, cut) := (hwrite _).trans hcut
    exact ⟨_, run_emit_of_write hcut, hwritten, List.prefix_append _ _⟩

/-! ### Parts in a row -/

theorem Bounded.bind {next : α → Session β} (hs : Bounded s) (hnext : ∀ a, Bounded (next a)) :
    Bounded (s >>= next) := by
  intro streams hroom
  obtain ⟨result, mid, first, hfirst⟩ := hs streams hroom
  cases result with
  | error e =>
      refine ⟨.error e, mid, first, run_bind_of_error hfirst.run next, hfirst.room, hfirst.written,
        hfirst.remarks, ?_, ?_⟩
      · intro room hfits
        exact run_bind_of_error (hfirst.fits room hfits) next
      · intro room hfull
        obtain ⟨cut, hrun, hcut⟩ := hfirst.full room hfull
        exact ⟨cut, run_bind_of_error hrun next, hcut⟩
  | ok a =>
      obtain ⟨result, after, second, hsecond⟩ := hnext a mid hfirst.room
      refine ⟨result, after, first ++ second, ?_, hsecond.room, ?_,
        hfirst.remarks.trans hsecond.remarks, ?_, ?_⟩
      · rw [run_bind_of_ok hfirst.run, hsecond.run]
      · rw [hsecond.written, hfirst.written, List.append_assoc]
      · intro room hfits
        rw [List.length_append] at hfits ⊢
        rw [run_bind_of_ok (hfirst.fits room (by omega)), hsecond.fits _ (by omega), Nat.sub_sub]
      · intro room hfull
        rw [List.length_append] at hfull
        -- the room ends in the second part, or already in the first one, and the second never runs
        by_cases hfits : first.length ≤ room
        · obtain ⟨cut, hrun, hwritten, hremarks⟩ :=
            hsecond.full (room - first.length) (by omega)
          refine ⟨cut, ?_, ?_, hremarks⟩
          · rw [run_bind_of_ok (hfirst.fits room hfits), hrun]
          · rw [hwritten, hfirst.written, List.take_append, List.take_of_length_le hfits,
              List.append_assoc]
        · obtain ⟨cut, hrun, hwritten, hremarks⟩ := hfirst.full room (by omega)
          refine ⟨cut, run_bind_of_error hrun next, ?_, hremarks.trans hsecond.remarks⟩
          rw [hwritten, List.take_append_of_le_length (by omega)]

/-! ### The parts of a session -/

theorem bounded_pure (a : α) : Bounded (pure a : Session α) :=
  Bounded.of_adding fun streams => by rw [run_pure, Streams.adding_nil]

theorem bounded_log (options : Options) (level : Level) (message : String) :
    Bounded (log options level message) :=
  Bounded.of_adding fun _ => run_log options level message

theorem bounded_forM_remark {γ : Type} (items : List γ) (toRemark : γ → Remark) :
    Bounded (items.forM fun x => remark (toRemark x)) :=
  Bounded.of_adding fun _ => run_forM_remark items toRemark

theorem bounded_determine (fs : FileSystem) (options : Options) :
    Bounded (Settings.determine fs options) := by
  rcases refuses_or_finds fs options with ⟨e, hrefuses⟩ | ⟨m?, hfinds⟩
  · apply Bounded.of_adding
    intro streams
    rw [run_determine_of_refuses hrefuses, Streams.adding_nil]
  · obtain ⟨message, hrun⟩ := run_determine hfinds
    exact Bounded.of_adding hrun

theorem bounded_source (fs : FileSystem) (options : Options) :
    Bounded (Session.source fs options) := by
  apply Silent.bounded
  intro input
  rcases misreads_or_reads fs options input with ⟨e, left, hmisreads⟩ | ⟨source, name, left, hreads⟩
  · refine ⟨.error e, left, [], ?_⟩
    rintro streams rfl
    rw [run_source_of_misreads streams hmisreads, Streams.adding_nil]
  · refine ⟨.ok (source, name), left, [], ?_⟩
    rintro streams rfl
    rw [run_source hreads, Streams.adding_nil]

theorem bounded_greet (options : Options) (settings : Settings) :
    Bounded (greet options settings) := by
  unfold greet
  split
  · exact bounded_emit fun _ => rfl
  · exact bounded_pure ()

theorem bounded_writeTokens (settings : Settings) (tokens : List Token) :
    Bounded (writeTokens settings tokens) := by
  unfold writeTokens
  cases settings.format with
  | text => exact bounded_emit fun _ => rfl
  | json => exact bounded_emit fun sink => sink.write_eq_writeAll _

theorem bounded_opening (fs : FileSystem) (options : Options) : Bounded (opening fs options) := by
  refine (bounded_determine fs options).bind fun settings => ?_
  exact (bounded_greet options settings).bind fun _ => bounded_pure settings

theorem bounded_body (fs : FileSystem) (options : Options) (settings : Settings) :
    Bounded (body fs options settings) := by
  refine (bounded_source fs options).bind ?_
  rintro ⟨source, name⟩
  refine (bounded_log _ _ _).bind fun _ => ?_
  obtain ⟨tokens, bag⟩ := ((Lexer.ofSource source name).withStrict settings.strict).tokenize
  refine (bounded_log _ _ _).bind fun _ => ?_
  refine (bounded_forM_remark _ _).bind fun _ => ?_
  refine (bounded_writeTokens settings tokens).bind fun _ => ?_
  split
  · exact (bounded_log _ _ _).bind fun _ => bounded_pure _
  · exact bounded_pure _

theorem bounded_ofOptions (fs : FileSystem) (options : Options) :
    Bounded (ofOptions fs options) :=
  (bounded_opening fs options).bind (bounded_body fs options)

/-! ### A whole run -/

/-- How a run ends with room for `n` bytes, beside how it ends without a limit. -/
structure CutAt (n : Nat) (unlimited limited : Except SessionError Outcome × Streams) : Prop where
  fits : unlimited.2.output.written.length ≤ n →
    limited.1 = unlimited.1 ∧ limited.2.output.written = unlimited.2.output.written ∧
      limited.2.remarks = unlimited.2.remarks ∧ limited.2.input = unlimited.2.input
  full : n < unlimited.2.output.written.length →
    limited.1 = .error (.stream .full) ∧
      limited.2.output.written = unlimited.2.output.written.take n ∧
      limited.2.remarks <+: unlimited.2.remarks ∧
      (Remark.renderAll limited.2.remarks).toList <+: (Remark.renderAll unlimited.2.remarks).toList

theorem toList_renderAll_prefix {xs ys : List Remark} (h : xs <+: ys) :
    (Remark.renderAll xs).toList <+: (Remark.renderAll ys).toList := by
  obtain ⟨more, rfl⟩ := h
  rw [Remark.renderAll, Remark.renderAll, List.map_append, String.join_append, String.toList_append]
  exact List.prefix_append _ _

theorem cutAt_of_bounded {s : Session Outcome} (h : Bounded s) (input : List UInt8) (n : Nat) :
    CutAt n (s.run { input }) (s.run { input, output := .ofLimit (some n) }) := by
  obtain ⟨result, after, bytes, hwrites⟩ := h { input } rfl
  have hwritten : after.output.written = bytes := hwrites.written
  rw [hwrites.run]
  refine ⟨fun hle => ?_, fun hlt => ?_⟩
  · dsimp only at hle
    rw [hwritten] at hle
    have hrun : s.run { input, output := .ofLimit (some n) } = _ := hwrites.fits n hle
    rw [hrun]
    exact ⟨rfl, rfl, rfl, rfl⟩
  · dsimp only at hlt
    rw [hwritten] at hlt
    obtain ⟨cut, hrun, htake, hremarks⟩ := hwrites.full n hlt
    have hrun : s.run { input, output := .ofLimit (some n) } = _ := hrun
    rw [hrun]
    dsimp only
    rw [hwritten]
    exact ⟨rfl, htake, hremarks, toList_renderAll_prefix hremarks⟩

theorem echo_ofLimit (tokens : List Token) (n : Nat) :
    let lines := Text.encode (String.join (tokens.map fun t => t.echoText ++ "\n"))
    ((echo tokens (.ofLimit (some n))).1 = false ↔ n < lines.length) ∧
      (echo tokens (.ofLimit (some n))).2.written = lines.take n := by
  intro lines
  have hlines : lines = _ := Text.encode_join _
  by_cases hfits : lines.length ≤ n
  · have hecho : echo tokens (.ofLimit (some n)) = _ :=
      Sink.writeAll_of_fits (hlines ▸ hfits) {}
    rw [hecho, Sink.written_withRoom, Sink.written_pushAll, List.take_of_length_le hfits]
    exact ⟨by simpa using hfits, rfl⟩
  · obtain ⟨cut, hcut, hwritten⟩ := Sink.writeAll_of_full (hlines ▸ Nat.lt_of_not_le hfits) {}
    have hecho : echo tokens (.ofLimit (some n)) = _ := hcut
    rw [hecho, hlines, hwritten]
    exact ⟨by simpa [← hlines] using hfits, rfl⟩

/-- **An output that runs full.** With room for what a session writes, its run is the one without a
limit. With less, it ends with an error, what fits stands on the output, and beside it is the
beginning of what would have been said. The echo of tokens is cut in the same way. -/
theorem cutAt_ofOptions (fs : FileSystem) (options : Options) (input : List UInt8) (n : Nat)
    (tokens : List Token) :
    CutAt n ((ofOptions fs options).run { input })
        ((ofOptions fs options).run { input, output := .ofLimit (some n) }) ∧
      let lines := Text.encode (String.join (tokens.map fun t => t.echoText ++ "\n"))
      ((echo tokens (.ofLimit (some n))).1 = false ↔ n < lines.length) ∧
        (echo tokens (.ofLimit (some n))).2.written = lines.take n :=
  ⟨cutAt_of_bounded (bounded_ofOptions fs options) input n, echo_ofLimit tokens n⟩

/-- A banner is cut inside a character, and what is typed is never looked at. -/
example :
    ((ofOptions ⟨.ok ⟨"/"⟩, fun _ => .error .notFound, fun _ => none⟩ { banner := ["é"] }).run
        { input := [255], output := .ofLimit (some 1) }).2 =
      { input := [255], output := ⟨[[195]], some 0⟩ } := by
  decide +kernel

end Session

end TokenEcho
