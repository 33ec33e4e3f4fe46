/-
  TemplateEngine.Proofs.Rendering.Cutoff — a sink that runs full.

  A sink takes what fits of a text and refuses the rest, so it makes no difference in which
  pieces a text comes: what was taken and whether it was all are those of the joined text.
  A run is its transcript replayed (`Transcript`), so the whole run is one text for the sink.
  So are the pieces of a value, however deep its lists and maps nest.

  Proved:
  - `Value.join_pieces`: the pieces of a value, joined, are its text.
  - `Run.writeEach_pieces`: to a sink, the pieces up to the first that it refuses are the text.
  - `Sink.writeEach_eq_write`: texts written one after the other, up to the first that is
    not taken whole, come to their joined text.
  - `Transcript.replay_sink`: so does a run. It ends as the transcript does if the joined
    text is taken whole, and with a full sink otherwise.
  - `Template.render_limited`: a sink with room for `n` bytes holds the first `n` bytes of
    the whole output. The outcome is that of the whole run if the output fits.
-/

import TemplateEngine.Proofs.Rendering.Transcript
import TemplateEngine.Template

namespace TemplateEngine

/-! ## One text in pieces -/

namespace Sink

@[simp] theorem write_empty (sink : Sink) : sink.write "" = (sink, true) := by
  obtain ⟨written, room⟩ := sink
  cases room with
  | none => simp [write]
  | some n => simp [write, ByteArray.extract_eq_empty_iff.mpr]

theorem write_append (sink : Sink) (a b : String) :
    sink.write (a ++ b) = if (sink.write a).2 then (sink.write a).1.write b else sink.write a := by
  obtain ⟨written, room⟩ := sink
  cases room with
  | none => simp [write, ByteArray.append_assoc]
  | some n =>
    have hextract : (a ++ b).toUTF8.extract 0 n =
        a.toUTF8.extract 0 n ++ b.toUTF8.extract 0 (n - a.toUTF8.size) := by
      simp [ByteArray.extract_append]
    have hsize : (a ++ b).toUTF8.size = a.toUTF8.size + b.toUTF8.size := by simp
    by_cases hfits : a.toUTF8.size ≤ n
    · have hwhole : a.toUTF8.size + b.toUTF8.size ≤ n ↔ b.toUTF8.size ≤ n - a.toUTF8.size := by omega
      simp only [write, hextract, hsize, hfits, decide_true, if_true, ByteArray.append_assoc, hwhole,
        Nat.sub_sub]
    · have hnone : b.toUTF8.extract 0 (n - a.toUTF8.size) = ByteArray.empty := by
        rw [Nat.sub_eq_zero_of_le (by omega)]
        exact ByteArray.extract_same
      have hpart : ¬ a.toUTF8.size + b.toUTF8.size ≤ n := by omega
      have hfull : n - (a.toUTF8.size + b.toUTF8.size) = n - a.toUTF8.size := by omega
      simp only [write, hextract, hsize, hfits, hnone, hpart, hfull, ByteArray.append_empty,
        decide_false, Bool.false_eq_true, if_false]

/-- Writes texts one after the other until one is not taken whole. -/
def writeEach (sink : Sink) : List String → Sink × Bool
  | [] => (sink, true)
  | text :: rest => if (sink.write text).2 then (sink.write text).1.writeEach rest else sink.write text

theorem writeEach_eq_write (sink : Sink) (texts : List String) :
    sink.writeEach texts = sink.write (String.join texts) := by
  induction texts generalizing sink with
  | nil => exact (write_empty sink).symm
  | cons text rest ih => rw [writeEach, String.join_cons, write_append, ih]

end Sink

namespace Run

theorem write_append (run : Run) (a b : String) :
    run.write (a ++ b) = (run.write a).andThen fun run => run.write b := by
  have happend : Writer.write run.sink (a ++ b) = if (Writer.write run.sink a).2
      then Writer.write (Writer.write run.sink a).1 b else Writer.write run.sink a := run.sink.write_append a b
  unfold Run.write
  rw [happend]
  obtain ⟨sink, complete⟩ := Writer.write run.sink a
  cases complete <;> rfl

theorem writeEach_eq_write (run : Run) (texts : List String) :
    run.writeEach texts = run.write (String.join texts) := by
  induction texts generalizing run with
  | nil =>
    have hempty : Writer.write run.sink "" = (run.sink, true) := run.sink.write_empty
    rw [writeEach, String.join_nil, write, hempty]
    rfl
  | cons text rest ih =>
    rw [writeEach, String.join_cons, write_append]
    simp only [ih]

end Run

/-! ## The pieces of a value -/

theorem join_intercalate (separator : String) : ∀ pieces : List (List String),
    String.join ([separator].intercalate pieces) = separator.intercalate (pieces.map String.join)
  | [] => rfl
  | [only] => by simp
  | first :: second :: rest => by
    have ih := join_intercalate separator (second :: rest)
    rw [List.map_cons] at ih
    rw [List.intercalate_cons_cons, String.join_append, String.join_append, ih, List.map_cons, List.map_cons,
      String.intercalate_cons_cons]
    rfl

namespace Value

mutual

theorem join_pieces : ∀ v : Value, String.join v.pieces = v.text
  | null => rfl
  | bool _ | int _ | float _ | char _ | string _ => by simp [pieces]
  | list items => by
    simp only [pieces, text, String.join_append, join_intercalate, map_join_piecesOfEach items]
    simp
  | map entries => by
    simp only [pieces, text, String.join_append, join_intercalate, map_join_piecesOfEntries entries]
    simp

theorem map_join_piecesOfEach : ∀ vs : List Value, (piecesOfEach vs).map String.join = texts vs
  | [] => rfl
  | v :: vs => by rw [piecesOfEach, texts, List.map_cons, join_pieces v, map_join_piecesOfEach vs]

theorem map_join_piecesOfEntries : ∀ entries : List (String × Value),
    (piecesOfEntries entries).map String.join = entryTexts entries
  | [] => rfl
  | (key, v) :: rest => by
    rw [piecesOfEntries, entryTexts, List.map_cons, String.join_cons, String.join_cons, join_pieces v,
      map_join_piecesOfEntries rest, String.append_assoc]

end

end Value

/-- To a sink it is all the same whether a value comes in its pieces or as its text. -/
theorem Run.writeEach_pieces (run : Run) (v : Value) : run.writeEach v.pieces = run.write v.text := by
  rw [writeEach_eq_write, v.join_pieces]

example : (Value.list [.int 1, .map [("a", .null), ("b", .list [])]]).pieces =
    ["[", "1", ", ", "\x7b", "a", "=", ", ", "b", "=", "[", "]", "\x7d", "]"] := by decide +kernel

/-! ## One run -/

namespace Transcript

/-- All that is written, as one text. -/
def text (t : Transcript) : String := String.join (t.texts.map (·.2))

theorem replay_sink (t : Transcript) (sink : Sink) :
    (t.replay sink).run.sink = (sink.write t.text).1 ∧
    (t.replay sink).failure = if (sink.write t.text).2 then t.failure else some .sinkFull := by
  rw [text, ← Sink.writeEach_eq_write]
  obtain ⟨texts, scope, failure⟩ := t
  simp only [replay]
  induction texts generalizing sink with
  | nil => exact ⟨rfl, rfl⟩
  | cons w texts ih =>
    rw [writeAll, List.map_cons, Sink.writeEach]
    have hrun : Run.write { scope := w.1, sink } w.2 =
        { run := { scope := w.1, sink := (sink.write w.2).1 },
          failure := if (sink.write w.2).2 then none else some .sinkFull } := rfl
    rw [hrun]
    cases hwrite : (sink.write w.2).2 with
    | true => exact ih (sink.write w.2).1
    | false => simp [Outcome.andThen, hwrite]

end Transcript

/-! ## The output, cut off -/

theorem extract_min_size (bytes : ByteArray) (n : Nat) :
    bytes.extract 0 (min n bytes.size) = bytes.extract 0 n := by
  calc bytes.extract 0 (min n bytes.size)
    _ = (bytes.extract 0 bytes.size).extract 0 n := by
      rw [ByteArray.extract_extract, Nat.zero_add, Nat.zero_add]
    _ = bytes.extract 0 n := by rw [ByteArray.extract_zero_size]

theorem extract_of_size_le {bytes : ByteArray} {n : Nat} (h : bytes.size ≤ n) : bytes.extract 0 n = bytes := by
  rw [← extract_min_size, Nat.min_eq_right h, ByteArray.extract_zero_size]

/-- A sink with room for `n` bytes holds the first `n` bytes of what a sink without limit
    holds; it only changes how the run ends if there was more to write. -/
theorem Template.render_limited (t : Template) (env : Environment) (caller : Table Value) (n : Nat) :
    let whole := t.render env caller
    let limited := t.render env caller (some n)
    let output := whole.run.sink.written
    limited.run.sink.written = output.extract 0 (min n output.size) ∧
    limited.failure = if output.size ≤ n then whole.failure else some .sinkFull := by
  obtain ⟨transcript, htranscript⟩ := env.renderContent_transcribed t.content { caller }
  have hwhole : t.render env caller = transcript.replay ({} : Sink) := htranscript Sink {}
  have hlimited : t.render env caller (some n) = transcript.replay ({ room := some n } : Sink) :=
    htranscript Sink { room := some n }
  intro whole limited output
  have houtput : output = transcript.text.toUTF8 := by
    show (t.render env caller).run.sink.written = _
    rw [hwhole, (transcript.replay_sink {}).1]
    exact ByteArray.empty_append
  have hfailure : whole.failure = transcript.failure := by
    show (t.render env caller).failure = _
    rw [hwhole, (transcript.replay_sink {}).2]
    rfl
  constructor
  · show (t.render env caller (some n)).run.sink.written = _
    rw [hlimited, (transcript.replay_sink _).1, houtput]
    show ByteArray.empty ++ transcript.text.toUTF8.extract 0 n = _
    rw [ByteArray.empty_append, extract_min_size]
  · show (t.render env caller (some n)).failure = _
    rw [hlimited, (transcript.replay_sink _).2, houtput, hfailure]
    simp [Sink.write]

end TemplateEngine
