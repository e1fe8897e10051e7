import Werift.Dtls.Message

/-!
# Fragments of handshake messages (`dtls/src/record/message/fragment.ts`)

A handshake message travels as one or several `FragmentedHandshake`s.  `chunk` cuts a message,
`assemble` puts the fragments together again.  The field `fragment_length` is the length of the bytes
that the fragment carries.
-/

namespace Werift.Dtls

open Schema

structure FragmentedHandshake where
  msg_type : ℕ
  length : ℕ
  message_seq : ℕ
  fragment_offset : ℕ
  fragment : Bytes
deriving DecidableEq

namespace FragmentedHandshake

def fragment_length (f : FragmentedHandshake) : ℕ := f.fragment.length

def spec : Schema FragmentedHandshake :=
  ((uintBE 1).prod <| (uintBE 3).prod <| (uintBE 2).prod <| (uintBE 3).prod (prefixed 3)).map
    (fun (t, l, s, o, b) => ⟨t, l, s, o, b⟩)
    fun f => (f.msg_type, f.length, f.message_seq, f.fragment_offset, f.fragment)

/-- `handshake.serialize()`. -/
def serialize (f : FragmentedHandshake) : Option Bytes := spec.encode f

/-- `FragmentedHandshake.deSerialize(buf)`. -/
def deSerialize (buf : Bytes) : Option FragmentedHandshake := spec.read buf

/-! ## Cutting and assembling -/

/-- The fragment of the `i`-th turn of the loop of `chunk`. -/
def piece (f : FragmentedHandshake) (max i : ℕ) : FragmentedHandshake where
  msg_type := f.msg_type
  length := f.fragment.length
  message_seq := f.message_seq
  fragment_offset := i * max
  fragment := (f.fragment.drop (i * max)).take max

/-- `chunk(max)`.  The loop takes a turn for every started `max` bytes. -/
def chunk (f : FragmentedHandshake) (max : ℕ) : List FragmentedHandshake :=
  if f.fragment.length = 0 then [f.piece max 0]
  else (List.range ((f.fragment.length + max - 1) / max)).map (f.piece max)

/-- `source.copy(target, targetStart)`. -/
def copy (source target : Bytes) (targetStart : ℕ) : Bytes :=
  target.take targetStart ++ source.take (target.length - targetStart) ++
    target.drop (targetStart + source.length)

/-- `FragmentedHandshake.assemble(messages)`. -/
def assemble (messages : List FragmentedHandshake) : Option FragmentedHandshake :=
  match messages.insertionSort (fun a b => a.fragment_offset ≤ b.fragment_offset) with
  | [] => none
  | first :: rest =>
    some
      { msg_type := first.msg_type
        length := first.length
        message_seq := first.message_seq
        fragment_offset := 0
        fragment := (first :: rest).foldl (fun combined msg =>
          copy msg.fragment combined msg.fragment_offset) (List.replicate first.length 0) }

/-- A message before it is cut. -/
structure Whole (f : FragmentedHandshake) : Prop where
  length : f.length = f.fragment.length
  offset : f.fragment_offset = 0

variable {f : FragmentedHandshake} {max : ℕ}

@[simp] lemma length_copy (source target : Bytes) (start : ℕ) :
    (copy source target start).length = target.length := by
  simp only [copy, List.length_append, List.length_take, List.length_drop]
  omega

/-- One message has at least one fragment. -/
lemma chunk_ne_nil (hmax : 0 < max) : f.chunk max ≠ [] := by
  unfold chunk
  split_ifs with h0
  · exact List.cons_ne_nil _ _
  · have hpos : 0 < (f.fragment.length + max - 1) / max := Nat.div_pos (by omega) hmax
    rw [Ne, List.map_eq_nil_iff, List.range_eq_nil]
    omega

end FragmentedHandshake

end Werift.Dtls
