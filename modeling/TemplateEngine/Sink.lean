/-
  TemplateEngine.Sink — where the output goes.

  Anything that takes texts and tells whether it took them whole can be written to. A sink
  in memory may have room for a number of bytes only. It takes what fits and then refuses
  everything that is not empty.
-/

namespace TemplateEngine

class Writer (σ : Type) where
  /-- The writer after a text, and whether it took all of it. -/
  write : σ → String → σ × Bool

structure Sink where
  written : ByteArray := ByteArray.empty
  /-- How many bytes it still takes; any number of them if there is no limit. -/
  room : Option Nat := none

namespace Sink

/-- Writes as much of a text as fits; tells whether that was all of it. -/
def write (sink : Sink) (text : String) : Sink × Bool :=
  let bytes := text.toUTF8
  match sink.room with
  | none => ({ sink with written := sink.written ++ bytes }, true)
  | some n =>
    ({ written := sink.written ++ bytes.extract 0 n, room := some (n - bytes.size) },
      decide (bytes.size ≤ n))

@[default_instance]
instance : Writer Sink where
  write := write

end Sink

end TemplateEngine
