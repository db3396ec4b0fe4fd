import Mathlib.Data.List.Basic

/-!
# Intraday.Lib.FallbackQueue — a remote queue with a local one behind it

Items go to the remote queue, or to the local one when there is no remote or its call fails.
They are taken from the local queue first. Calls fail without effect, so nothing is lost and
nothing is taken twice, whichever calls fail (`items_push`, `items_take`).
-/

namespace Intraday.Lib

/-- The two queues; `none` if there is no remote. -/
structure FallbackQueue (α : Type) where
  remote : Option (List α)
  fallback : List α

namespace FallbackQueue

variable {α β : Type}

/-- Everything that waits. -/
def items (q : FallbackQueue α) : List α := q.remote.getD [] ++ q.fallback

/-- Adds an item; `fails` when the remote call does. -/
def push (q : FallbackQueue α) (fails : Bool) (x : α) : FallbackQueue α :=
  match q.remote, fails with
  | some xs, false => { q with remote := some (xs ++ [x]) }
  | _, _ => { q with fallback := q.fallback ++ [x] }

/-- What a `take` gets from the remote queue. -/
def fromRemote (q : FallbackQueue α) (limit : ℕ) (fails : Bool) : List α :=
  if fails then [] else (q.remote.getD []).take (limit - (q.fallback.take limit).length)

/-- Takes up to `limit` items; `fails` when a remote call does. -/
def take (q : FallbackQueue α) (limit : ℕ) (fails : Bool) : List α × FallbackQueue α :=
  (q.fallback.take limit ++ q.fromRemote limit fails,
    { remote := q.remote.map (·.drop (q.fromRemote limit fails).length)
      fallback := q.fallback.drop limit })

/-- The same queues of other items. -/
def map (f : α → β) (q : FallbackQueue α) : FallbackQueue β :=
  { remote := q.remote.map (·.map f)
    fallback := q.fallback.map f }

theorem items_push (q : FallbackQueue α) (fails : Bool) (x : α) :
    (q.push fails x).items.Perm (x :: q.items) := by
  rcases q with ⟨remote, fallback⟩
  cases remote with
  | none => exact List.perm_append_singleton x fallback
  | some xs =>
      cases fails with
      | true =>
          change (xs ++ (fallback ++ [x])).Perm (x :: (xs ++ fallback))
          rw [← List.append_assoc]
          exact List.perm_append_singleton x (xs ++ fallback)
      | false =>
          change (xs ++ [x] ++ fallback).Perm (x :: (xs ++ fallback))
          exact (List.perm_append_singleton x xs).append_right fallback

/-- The remote part of a `take` is the front of the remote queue. -/
theorem fromRemote_append (q : FallbackQueue α) (limit : ℕ) (fails : Bool) :
    q.fromRemote limit fails ++ (q.remote.getD []).drop (q.fromRemote limit fails).length =
      q.remote.getD [] := by
  rw [fromRemote]
  split
  · rfl
  · exact List.prefix_iff_eq_append.mp (List.take_prefix _ _)

theorem items_take (q : FallbackQueue α) (limit : ℕ) (fails : Bool) :
    ((q.take limit fails).1 ++ (q.take limit fails).2.items).Perm q.items := by
  have hremote := q.fromRemote_append limit fails
  have hdrop : (q.remote.map (·.drop (q.fromRemote limit fails).length)).getD [] =
      (q.remote.getD []).drop (q.fromRemote limit fails).length := by
    cases q.remote with
    | none => simp
    | some xs => rfl
  rw [take, items, items, hdrop]
  calc q.fallback.take limit ++ q.fromRemote limit fails ++
        ((q.remote.getD []).drop (q.fromRemote limit fails).length ++ q.fallback.drop limit)
      = q.fallback.take limit ++ (q.remote.getD [] ++ q.fallback.drop limit) := by
        rw [List.append_assoc, ← List.append_assoc (q.fromRemote limit fails), hremote]
    List.Perm _ (q.remote.getD [] ++ (q.fallback.take limit ++ q.fallback.drop limit)) :=
        List.perm_append_comm_assoc _ _ _
    _ = q.remote.getD [] ++ q.fallback := by rw [List.take_append_drop]

theorem length_take_le (q : FallbackQueue α) (limit : ℕ) (fails : Bool) :
    (q.take limit fails).1.length ≤ limit := by
  have hlocal : (q.fallback.take limit).length ≤ limit := List.length_take_le limit q.fallback
  have hremote : (q.fromRemote limit fails).length ≤ limit - (q.fallback.take limit).length := by
    rw [fromRemote]
    split
    · simp
    · exact List.length_take_le _ _
  rw [take, List.length_append]
  omega

end FallbackQueue

end Intraday.Lib
