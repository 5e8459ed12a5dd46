import PackageSweep.Json.Writer
import PackageSweep.Log.Filter

/-!
# Log lines

An event becomes one line: either the time, the level and the text, or a JSON object with the same
three. In the first form, characters that could steer a terminal are shown by their code points.
-/

namespace PackageSweep

inductive LogFormat where
  | compact
  | json
  deriving DecidableEq

namespace LogFormat

/-- A character that could steer a terminal, shown; other characters stay. -/
def shown (c : Char) : List Char :=
  let n := c.toNat
  if n = 0x1b ∨ n = 0x07 ∨ n = 0x08 ∨ n = 0x0c ∨ n = 0x7f then
    ['\\', 'x'] ++ Json.controlNumeral c
  else if 0x80 ≤ n ∧ n ≤ 0x9f then
    ['\\', 'u', '\x7b'] ++ Json.controlNumeral c ++ ['\x7d']
  else [c]

def line (w : Wording) (e : Event) : LogFormat → List Char
  | .compact =>
    let level := e.level.text.toList
    w.stamp.toList ++ ' ' :: List.replicate (5 - level.length) ' ' ++ level ++ ' ' ::
      (e.text w).toList.flatMap shown ++ ['\n']
  | .json =>
    (Json.Value.object
      [("timestamp", .text w.stamp),
        ("level", .text e.level.text),
        ("fields", .object [("message", .text (e.text w))])]).compact ++ ['\n']

end LogFormat

/-- What a program does with its log: which events it writes, and how. -/
structure Logger where
  filter : Filter
  format : LogFormat

namespace Logger

def write (l : Logger) (w : Wording) (e : Event) : Bytes :=
  if l.filter.admits e then Utf8.encode (l.format.line w e) else []

end Logger

end PackageSweep
