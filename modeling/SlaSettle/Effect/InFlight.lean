import Mathlib.Data.List.Basic

/-!
# Requests in flight

Requests that have been made and may come back in any order are a list from which any one is taken.
These are the list facts that go with a request `r` among those in flight: it is one of them, the
others stay when it is over, and what holds of all keeps holding when it is replaced.
-/

namespace Effect

variable {α : Type} {r r' : α} {l l₁ l₂ : List α}

theorem mem_inFlight (h : l = l₁ ++ r :: l₂) : r ∈ l := by
  rw [h]
  exact List.mem_append_right l₁ List.mem_cons_self

theorem sublist_inFlight (h : l = l₁ ++ r :: l₂) : (l₁ ++ l₂).Sublist l := by
  rw [h]
  exact (List.sublist_cons_self r l₂).append_left l₁

theorem subset_inFlight (h : l = l₁ ++ r :: l₂) : l₁ ++ l₂ ⊆ l := (sublist_inFlight h).subset

theorem forall_inFlight {P : α → Prop} (h : l = l₁ ++ r :: l₂) (hall : ∀ q ∈ l, P q) (hnew : P r') :
    ∀ q ∈ l₁ ++ r' :: l₂, P q := by
  intro q hq
  rcases List.mem_append.mp hq with hbefore | hbehind
  · exact hall q (subset_inFlight h (List.mem_append_left l₂ hbefore))
  · rcases List.mem_cons.mp hbehind with rfl | hbehind
    · exact hnew
    · exact hall q (subset_inFlight h (List.mem_append_right l₁ hbehind))

end Effect
