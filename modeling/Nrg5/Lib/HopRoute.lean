import Mathlib.Tactic

/-!
# Hop-by-hop routes

Each node of a network has a next hop towards a target, or none.  `HopRoute` is the
list of nodes that are visited by taking next hops until the target is reached.

A node that gets a next hop where it had none, to a node that has a route, gets a
route itself and leaves all others as they are (`HopRoute.hop`, `HopRoute.mono`).
Where next hops are unique, a route that reaches its target visits no node twice.
-/

/-- The nodes from one node to the target, each the next hop of the one before it. -/
inductive HopRoute {α : Type} (next : α → α → Prop) (target : α) : α → List α → Prop where
  | arrived : HopRoute next target target [target]
  | hop {x y : α} {rest : List α} (onTheWay : x ≠ target) (isNext : next x y)
      (onward : HopRoute next target y rest) : HopRoute next target x (x :: rest)

namespace HopRoute

variable {α : Type} {next wider : α → α → Prop} {target x y z : α} {path other : List α}

theorem mono (included : ∀ x y, next x y → wider x y) (route : HopRoute next target x path) :
    HopRoute wider target x path := by
  induction route with
  | arrived => exact .arrived
  | hop onTheWay isNext onward ih => exact .hop onTheWay (included _ _ isNext) ih

theorem from_mem (route : HopRoute next target x path) (isOn : z ∈ path) :
    ∃ rest, HopRoute next target z rest ∧ rest.length ≤ path.length := by
  induction route with
  | arrived =>
      rcases List.mem_singleton.mp isOn with rfl
      exact ⟨[z], .arrived, le_rfl⟩
  | @hop x y rest onTheWay isNext onward ih =>
      rcases List.mem_cons.mp isOn with rfl | isLater
      · exact ⟨z :: rest, .hop onTheWay isNext onward, le_rfl⟩
      · rcases ih isLater with ⟨shorter, route, bound⟩
        exact ⟨shorter, route, bound.trans (Nat.le_succ _)⟩

theorem ne_nil (route : HopRoute next target x path) : path ≠ [] := by
  cases route with
  | arrived => exact List.cons_ne_nil _ _
  | hop onTheWay isNext onward => exact List.cons_ne_nil _ _

/-- The target comes last. -/
theorem dropLast_concat (route : HopRoute next target x path) :
    path.dropLast ++ [target] = path := by
  induction route with
  | arrived => rfl
  | hop onTheWay isNext onward ih =>
      rw [List.dropLast_cons_of_ne_nil onward.ne_nil, List.cons_append, ih]

section Deterministic

variable (unique : ∀ x y z, next x y → next x z → y = z)

include unique

theorem eq_of_unique (route : HopRoute next target x path)
    (otherRoute : HopRoute next target x other) : path = other := by
  induction route generalizing other with
  | arrived =>
      cases otherRoute with
      | arrived => rfl
      | hop onTheWay isNext onward => exact absurd rfl onTheWay
  | hop onTheWay isNext onward ih =>
      cases otherRoute with
      | arrived => exact absurd rfl onTheWay
      | hop otherWay otherNext otherOnward =>
          rcases unique _ _ _ isNext otherNext with rfl
          rw [ih otherOnward]

/-- With unique next hops, a node met a second time would lead round for ever. -/
theorem nodup (route : HopRoute next target x path) : path.Nodup := by
  induction route with
  | arrived => exact List.nodup_singleton _
  | @hop x y rest onTheWay isNext onward ih =>
      apply List.nodup_cons.mpr
      refine ⟨?_, ih⟩
      intro isAgain
      rcases onward.from_mem isAgain with ⟨again, sameRoute, shorter⟩
      have same := eq_of_unique unique (.hop onTheWay isNext onward) sameRoute
      rw [← same, List.length_cons] at shorter
      omega

end Deterministic

end HopRoute
