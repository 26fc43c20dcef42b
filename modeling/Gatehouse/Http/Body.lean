namespace Gatehouse

/-- How a body ends. -/
inductive Ending where
  | complete
  /-- The sender is gone before the end. -/
  | brokenOff
  /-- The sender keeps the connection and sends no more, though the end has not come. -/
  | stalled
  /-- More has come than may be read. -/
  | overLimit
deriving DecidableEq, Repr

structure Body where
  chunks : List ByteArray
  ending : Ending
  /-- The length, if it is told in advance. -/
  announced : Option Nat

/-- Why a body could not be read to its end. -/
inductive ReadFault where
  | overLimit
  | brokenOff
  | stalled
deriving DecidableEq, Repr

/-- The chunks that fit into `room`, and whether all of them do. -/
def fittingChunks (room : Nat) : List ByteArray → List ByteArray × Bool
  | [] => ([], true)
  | chunk :: rest =>
    if chunk.size ≤ room then
      let (fit, all) := fittingChunks (room - chunk.size) rest
      (chunk :: fit, all)
    else ([], false)

namespace Body

/-- A body that is there as a whole. -/
def whole (bytes : ByteArray) : Body := ⟨[bytes], .complete, some bytes.size⟩

def empty : Body := ⟨[], .complete, some 0⟩

/-- A body that comes bit by bit. -/
def stream (chunks : List ByteArray) (ending : Ending) : Body := ⟨chunks, ending, none⟩

/--
The same body, cut off before the first chunk that would exceed the limit. The length that is told
in advance is then no more than the limit; where that is zero, it is known.
-/
def cap (limit : Nat) (b : Body) : Body :=
  let (fit, all) := fittingChunks limit b.chunks
  { chunks := fit
    ending := if all then b.ending else .overLimit
    announced := if limit = 0 then some 0 else b.announced.map (min limit) }

/-- All octets up to where the body ends. -/
def bytes (b : Body) : ByteArray := b.chunks.foldl (· ++ ·) .empty

/-- The octets of a body that ends normally within the limit. -/
def collect (limit : Nat) (b : Body) : Except ReadFault ByteArray :=
  let capped := b.cap limit
  match capped.ending with
  | .complete => .ok capped.bytes
  | .brokenOff => .error .brokenOff
  | .stalled => .error .stalled
  | .overLimit => .error .overLimit

/-- Whether it is told in advance that nothing will come. -/
def isKnownEmpty (b : Body) : Bool :=
  b.announced == some 0 && b.ending == .complete && b.chunks.all ByteArray.isEmpty

end Body

end Gatehouse
