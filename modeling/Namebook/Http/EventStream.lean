import Namebook.Directory.Followers

/-!
A feed as a stream of events to a client. When nothing was sent for a while, a comment shows that
the stream is still there.
-/

namespace Namebook.Http

/-- After how many seconds without an event a comment is due. -/
def keepAliveSeconds : Nat := 15

def keepAliveMillis : Nat := 1000 * keepAliveSeconds

/-- A feed by its text, and when the next comment is due. -/
structure EventStream where
  feed : String
  deadline : Nat

inductive Frame where
  | change (c : Change)
  | keepAlive

namespace EventStream

def start (d : Directory) (feed : String) : EventStream := ⟨feed, d.now + keepAliveMillis⟩

/-- Frames that were read, and whether the stream has ended after them. -/
structure Reading where
  frames : List Frame
  ended : Bool
  stream : EventStream

/-- Takes all frames that are ready. Every frame puts off the next comment. -/
def read (s : EventStream) (d : Directory) : Reading × Directory :=
  match d.readFeed s.feed none with
  | (none, d) => (⟨[], true, s⟩, d)
  | (some r, d) =>
    let frames := r.changes.map Frame.change
    let later := d.now + keepAliveMillis
    let deadline := if frames.isEmpty then s.deadline else later
    if !r.ended && deadline ≤ d.now then
      (⟨frames ++ [.keepAlive], false, { s with deadline := later }⟩, d)
    else (⟨frames, r.ended, { s with deadline }⟩, d)

end EventStream

end Namebook.Http
