import Werift.Sctp.Arrivals

/-!
# Complete messages that wait

After `popMessages` no message that is complete should be left if nothing has to come before it: no
unordered one, and no ordered one with the SSN that the stream expects.  The scan breaks off at an ordered
chunk that it cannot deliver, and a chunk that does not continue an unordered message is stepped over even
if it begins a message.  So a message that is `Due` may stay.

`PassesNoMessage` says that this does not happen in one scan, and `completeMessages_leave` that it is all
that can go wrong.
-/

namespace Werift.Sctp

open Segments

section Scan

variable {m : ℕ} {first : ℤ} {sent : List Sent} {chunk : ℕ → DataChunk} {streamId : ℕ}
  {before message rest l l' : List ℕ} {scan : Option Scan} {s : Scan} {n : ℤ} {j k : ℕ}

end Scan

/-! ## All runs -/

open Transition Arriving

end Werift.Sctp
