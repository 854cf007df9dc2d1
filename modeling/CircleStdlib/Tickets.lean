import Mathlib.Data.List.Nodup
import Mathlib.Data.List.Perm.Lattice

/-!
Requests that are held until they are settled, and the tickets under way for
them. Both sides balance when every held item has exactly one ticket under way
and there are no others. As long as the keys of the held items are distinct, the
key on a ticket that comes back leads to the item it was issued for.
-/

namespace CircleStdlib.Tickets

variable {Item Ticket Key : Type}

structure Balanced (ticket : Item → Ticket) (key : Ticket → Key) (held : List Item)
    (flying : List Ticket) : Prop where
  conserved : flying.Perm (held.map ticket)
  distinct : (held.map fun item => key (ticket item)).Nodup

def claims [DecidableEq Key] (ticket : Item → Ticket) (key : Ticket → Key) (wanted : Key)
    (item : Item) : Bool :=
  key (ticket item) = wanted

variable {ticket : Item → Ticket} {key : Ticket → Key} {held : List Item} {flying : List Ticket}

theorem balanced_nil : Balanced ticket key [] [] := ⟨.refl _, List.nodup_nil⟩

theorem balanced_perm (balanced : Balanced ticket key held flying) (moved : List Ticket)
    (same : moved.Perm flying) : Balanced ticket key held moved :=
  ⟨same.trans balanced.conserved, balanced.distinct⟩

theorem balanced_issue (balanced : Balanced ticket key held flying) (item : Item)
    (next : List Item) (same : next.Perm (item :: held))
    (fresh : ∀ other ∈ held, key (ticket other) ≠ key (ticket item)) :
    Balanced ticket key next (ticket item :: flying) := by
  constructor
  · exact (balanced.conserved.cons (ticket item)).trans (same.map ticket).symm
  · apply (same.map fun item => key (ticket item)).nodup_iff.mpr
    apply List.nodup_cons.mpr
    refine ⟨?_, balanced.distinct⟩
    intro member
    rcases List.mem_map.mp member with ⟨other, inside, equal⟩
    exact fresh other inside equal

variable [DecidableEq Key]

/-- The first item that claims a key is the only one. -/
theorem claimed_unique (before after : List Item) (item : Item)
    (distinct : ((before ++ item :: after).map fun item => key (ticket item)).Nodup) :
    (before ++ item :: after).find? (claims ticket key (key (ticket item))) = some item ∧
      (before ++ item :: after).eraseP (claims ticket key (key (ticket item))) =
        before ++ after := by
  have others : ∀ other ∈ before, ¬ claims ticket key (key (ticket item)) other := by
    intro other member claim
    rw [List.map_append, List.nodup_append] at distinct
    refine distinct.2.2 (key (ticket other)) (List.mem_map.mpr ⟨other, member, rfl⟩)
      (key (ticket item)) (by simp) ?_
    simpa [claims] using claim
  have hit : claims ticket key (key (ticket item)) item = true := by simp [claims]
  constructor
  · rw [List.find?_append, List.find?_eq_none.mpr others]
    simp [hit]
  · rw [List.eraseP_append_right _ others, List.eraseP_cons_of_pos hit]

/-- A ticket that comes back settles the item that claims its key. -/
theorem balanced_settle (token : Ticket) (balanced : Balanced ticket key held (token :: flying)) :
    ∃ item, held.find? (claims ticket key (key token)) = some item ∧ ticket item = token ∧
      Balanced ticket key (held.eraseP (claims ticket key (key token))) flying ∧
      ∀ other ∈ held.eraseP (claims ticket key (key token)), key (ticket other) ≠ key token := by
  rcases List.mem_map.mp (balanced.conserved.mem_iff.mp List.mem_cons_self) with
    ⟨item, member, rfl⟩
  rcases List.append_of_mem member with ⟨before, after, rfl⟩
  rcases claimed_unique before after item balanced.distinct with ⟨found, erased⟩
  have moved : (before ++ item :: after).Perm (item :: (before ++ after)) := List.perm_middle
  have distinct := (moved.map fun item => key (ticket item)).nodup_iff.mp balanced.distinct
  rw [List.map_cons, List.nodup_cons] at distinct
  refine ⟨item, found, rfl, ?_, ?_⟩
  · rw [erased]
    exact ⟨(List.perm_cons _).mp (balanced.conserved.trans (moved.map ticket)), distinct.2⟩
  · rw [erased]
    intro other inside same
    exact distinct.1 (List.mem_map.mpr ⟨other, inside, same⟩)

end CircleStdlib.Tickets
