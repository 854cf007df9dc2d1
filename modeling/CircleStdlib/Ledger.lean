import Mathlib.Data.List.Basic

/-!
A history in which keys are opened and closed, any number of times and in any
order. A key is outstanding when it has been opened and not been closed since.
A list keeps account of a history when it holds the outstanding keys, each of
them once.
-/

namespace CircleStdlib.Ledger

inductive Entry (Key : Type) where
  | opened (key : Key)
  | closed (key : Key)

variable {Key : Type}

def Outstanding (history : List (Entry Key)) (key : Key) : Prop :=
  ∃ before after, history = before ++ .opened key :: after ∧ Entry.closed key ∉ after

theorem not_outstanding_nil (key : Key) : ¬ Outstanding [] key := by
  rintro ⟨before, after, whole, -⟩
  cases before <;> cases whole

theorem outstanding_snoc (history : List (Entry Key)) (entry : Entry Key) (key : Key) :
    Outstanding (history ++ [entry]) key ↔
      entry = .opened key ∨ entry ≠ .closed key ∧ Outstanding history key := by
  constructor
  · rintro ⟨before, after, whole, unclosed⟩
    rcases List.eq_nil_or_concat' after with rfl | ⟨others, last, rfl⟩
    · have same := (List.append_inj' whole rfl).2
      exact Or.inl (List.cons.inj same).1
    · have longer : history ++ [entry] = (before ++ .opened key :: others) ++ [last] := by
        simpa using whole
      rcases List.append_inj' longer rfl with ⟨front, same⟩
      have final : entry = last := (List.cons.inj same).1
      refine Or.inr ⟨?_, before, others, front, fun member => unclosed (by simp [member])⟩
      rintro rfl
      exact unclosed (by simp [final])
  · rintro (rfl | ⟨other, before, after, rfl, unclosed⟩)
    · exact ⟨history, [], rfl, List.not_mem_nil⟩
    · refine ⟨before, after ++ [entry], by simp, ?_⟩
      intro member
      rcases List.mem_append.mp member with old | new
      · exact unclosed old
      · exact other (List.mem_singleton.mp new).symm

structure Accounts (store : List Key) (history : List (Entry Key)) : Prop where
  once : store.Nodup
  exact : ∀ key, key ∈ store ↔ Outstanding history key

theorem accounts_nil : Accounts ([] : List Key) [] :=
  ⟨List.nodup_nil, fun key => ⟨fun member => absurd member List.not_mem_nil,
    fun outstanding => absurd outstanding (not_outstanding_nil key)⟩⟩

variable {store : List Key} {history : List (Entry Key)}

theorem accounts_opened (accounts : Accounts store history) (key : Key) (fresh : key ∉ store) :
    Accounts (key :: store) (history ++ [.opened key]) := by
  refine ⟨List.nodup_cons.mpr ⟨fresh, accounts.once⟩, ?_⟩
  intro other
  rw [outstanding_snoc, List.mem_cons, accounts.exact]
  constructor
  · rintro (rfl | outstanding)
    · exact Or.inl rfl
    · exact Or.inr ⟨by simp, outstanding⟩
  · rintro (same | ⟨-, outstanding⟩)
    · cases same
      exact Or.inl rfl
    · exact Or.inr outstanding

theorem accounts_reopened (accounts : Accounts store history) (key : Key) (known : key ∈ store) :
    Accounts store (history ++ [.opened key]) := by
  refine ⟨accounts.once, ?_⟩
  intro other
  rw [outstanding_snoc]
  constructor
  · intro member
    exact Or.inr ⟨by simp, (accounts.exact other).mp member⟩
  · rintro (same | ⟨-, outstanding⟩)
    · cases same
      exact known
    · exact (accounts.exact other).mpr outstanding

theorem accounts_closed [DecidableEq Key] (accounts : Accounts store history) (key : Key) :
    Accounts (store.erase key) (history ++ [.closed key]) := by
  refine ⟨accounts.once.erase key, ?_⟩
  intro other
  rw [outstanding_snoc, accounts.once.mem_erase_iff, accounts.exact]
  constructor
  · rintro ⟨different, outstanding⟩
    refine Or.inr ⟨?_, outstanding⟩
    rintro ⟨⟩
    exact different rfl
  · rintro (same | ⟨different, outstanding⟩)
    · cases same
    · refine ⟨?_, outstanding⟩
      rintro rfl
      exact different rfl

end CircleStdlib.Ledger
