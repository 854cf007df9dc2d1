import Mathlib.Data.List.Sort
import Mathlib.Order.Lattice

/-!
Insertion into an ordered list in front of the first item that comes strictly later.
The relation need not be an order on the whole type, only on the items at hand, where
it agrees with a key: this is how the wrapped comparison of counters behaves. Items
with equal keys stay in the order in which they came.
-/

namespace CircleStdlib.StableInsertion

variable {Item Key : Type*} [LinearOrder Key] (before : Item → Item → Prop) (key : Item → Key)

def KeyedBy (items : List Item) : Prop :=
  ∀ left ∈ items, ∀ right ∈ items, before left right ↔ key left < key right

def InOrder (items : List Item) : Prop := items.Pairwise fun left right => ¬ before right left

theorem keyedBy_subset (items others : List Item) (keyed : KeyedBy before key items)
    (subset : others ⊆ items) : KeyedBy before key others :=
  fun left leftMember right rightMember =>
    keyed left (subset leftMember) right (subset rightMember)

section Insertion
variable [DecidableRel before]

theorem orderedInsert_inOrder (item : Item) (items : List Item)
    (keyed : KeyedBy before key (item :: items)) (inOrder : InOrder before items) :
    InOrder before (items.orderedInsert before item) := by
  induction items with
  | nil => exact List.pairwise_singleton _ _
  | cons other rest ih =>
      rcases List.pairwise_cons.mp inOrder with ⟨least, ordered⟩
      have fewer : KeyedBy before key (item :: rest) :=
        keyedBy_subset before key _ _ keyed (List.cons_subset_cons _ (List.subset_cons_self _ _))
      rw [List.orderedInsert_cons]
      split
      · rename_i first
        refine List.pairwise_cons.mpr ⟨?_, inOrder⟩
        intro right member
        have above : key item < key right := by
          have greater := (keyed item (by simp) other (by simp)).mp first
          rcases List.mem_cons.mp member with rfl | inRest
          · exact greater
          · have ordered := least right inRest
            rw [keyed right (by simp [inRest]) other (by simp), not_lt] at ordered
            exact greater.trans_le ordered
        rw [keyed right (List.mem_cons_of_mem _ member) item (by simp)]
        exact above.not_gt
      · rename_i behind
        refine List.pairwise_cons.mpr ⟨?_, ih fewer ordered⟩
        intro right member
        rcases List.mem_orderedInsert before |>.mp member with rfl | inRest
        · exact behind
        · exact least right inRest

omit key in
/-- Items in front that come no later are passed. -/
theorem orderedInsert_append (item : Item) (front back : List Item)
    (passed : ∀ other ∈ front, ¬ before item other) :
    (front ++ back).orderedInsert before item = front ++ back.orderedInsert before item := by
  induction front with
  | nil => rfl
  | cons other rest ih =>
      rw [List.cons_append, List.orderedInsert_cons, if_neg (passed other (List.mem_cons_self ..)),
        ih fun other member => passed other (List.mem_cons_of_mem _ member)]
      rfl

/-- The new item comes behind the others with its key, and these do not change places. -/
theorem filter_orderedInsert (wanted : Item → Bool) (item : Item) (items : List Item)
    (keyed : KeyedBy before key (item :: items)) (inOrder : InOrder before items)
    (same : ∀ other ∈ items, wanted other = true → wanted item = true → key other = key item) :
    (items.orderedInsert before item).filter wanted =
      items.filter wanted ++ [item].filter wanted := by
  induction items with
  | nil => rfl
  | cons other rest ih =>
      rcases List.pairwise_cons.mp inOrder with ⟨least, ordered⟩
      have fewer : KeyedBy before key (item :: rest) :=
        keyedBy_subset before key _ _ keyed (List.cons_subset_cons _ (List.subset_cons_self _ _))
      rw [List.orderedInsert_cons]
      split
      · rename_i first
        by_cases chosen : wanted item = true
        · -- Everything from here on has a greater key, so none of it is wanted.
          have greater := (keyed item (by simp) other (by simp)).mp first
          have none : (other :: rest).filter wanted = [] := by
            rw [List.filter_eq_nil_iff]
            intro right member hit
            have equal := same right member hit chosen
            rcases List.mem_cons.mp member with rfl | inRest
            · exact greater.ne equal.symm
            · have ordered := least right inRest
              rw [keyed right (by simp [inRest]) other (by simp), not_lt] at ordered
              exact (greater.trans_le ordered).ne equal.symm
          rw [List.filter_cons_of_pos chosen, none, List.filter_cons_of_pos chosen]
          rfl
        · rw [List.filter_cons_of_neg chosen, List.filter_cons_of_neg chosen, List.filter_nil,
            List.append_nil]
      · rw [List.filter_cons, List.filter_cons,
          ih fewer ordered fun right member => same right (List.mem_cons_of_mem _ member)]
        split <;> rfl

end Insertion

end CircleStdlib.StableInsertion
