import BankLedger.Text.Octets

/-!
# Frames

Both sides of a session send frames: a tag, the length of what follows the tag, and a body.  Frames
follow each other without a mark between them, so a reader of the stream has a whole frame, needs
more octets, or finds a length that cannot be.
-/

namespace BankLedger.Postgres

/-- A tagged body. -/
structure Frame where
  tag : UInt8
  body : Octets
deriving DecidableEq

/-- What the start of a stream holds. -/
inductive Framing
  | incomplete
  | impossible
  | whole (frame : Frame) (rest : Octets)
deriving DecidableEq

namespace Frame

/-- A body with its length, which counts itself. -/
def sized (body : Octets) : Octets :=
  Octets.ofNat32 (body.length + 4) ++ body

/-- A frame as it is sent. -/
def octets (frame : Frame) : Octets :=
  frame.tag :: sized frame.body

/-- The frame of a tag and a length that a stream goes on with. -/
def split (tag : UInt8) (length : Nat) (stream : Octets) : Framing :=
  let body := stream.take (length - 4)
  if length < 4 then .impossible
  else if body.length < length - 4 then .incomplete
  else .whole ⟨tag, body⟩ (stream.drop (length - 4))

/-- The frame that a stream starts with. -/
def read : Octets → Framing
  | tag :: a :: b :: c :: d :: rest =>
      split tag (Octets.toNat [a, b, c, d]) rest
  | _ => .incomplete

theorem length_of_split {tag : UInt8} {length : Nat} {stream rest : Octets} {frame : Frame}
    (whole : split tag length stream = .whole frame rest) : rest.length ≤ stream.length := by
  simp only [split] at whole
  split at whole
  · cases whole
  · split at whole
    · cases whole
    · injection whole with _ same
      subst same
      simp

theorem length_of_read {stream rest : Octets} {frame : Frame}
    (whole : read stream = .whole frame rest) : rest.length < stream.length := by
  unfold read at whole
  split at whole
  · have shorter := length_of_split whole
    simp only [List.length_cons]
    omega
  · cases whole

/-- The frames that a stream starts with, in order, up to an incomplete or impossible one. -/
def readAll (stream : Octets) : List Frame :=
  match found : read stream with
  | .whole frame rest =>
      have := length_of_read found
      frame :: readAll rest
  | _ => []
termination_by stream.length

end Frame

end BankLedger.Postgres
