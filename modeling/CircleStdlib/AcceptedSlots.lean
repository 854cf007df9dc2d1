import CircleStdlib.HandleOwners
import Mathlib.Data.Set.Card

/-!
The slot that each accepted socket takes besides its own. The destructor clears the slot of
`m_nHandle` only, so the other one keeps its pointer, and `AddSocket` never finds it free.
-/

namespace CircleStdlib.AcceptedSlots

open Execution HandleOwners
open SocketHandles (Sockets NetResult addSocket addSocket_slot addSocket_other addSocket_free
  construct construct_cases destruct acceptNew openSocket)

variable {Addr Ctx : Type} [DecidableEq Addr] [DecidableEq Ctx]

/-- The slots that are occupied but are not the slot of a live object. -/
def strays (slots : List (Option Addr)) (handle : Addr → Option Int) : Set Nat :=
  {index | ∃ socket, slots[index]? = some (some socket) ∧ handle socket ≠ some (index : Int)}

section Strays

omit [DecidableEq Addr] in
theorem free_stray (slots : List (Option Addr)) (handle : Addr → Option Int) (socket : Addr) :
    (addSocket socket slots).2 ∉ strays slots handle := by
  rintro ⟨occupant, occupied, -⟩
  exact addSocket_free socket occupant slots occupied

-- an old pointer to the same address stays a stray, for the new object has another slot
theorem strays_constructed (slots : List (Option Addr)) (handle : Addr → Option Int)
    (socket : Addr) (dead : handle socket = none) :
    strays (addSocket socket slots).1
      (Function.update handle socket (some ((addSocket socket slots).2 : Int))) =
        strays slots handle := by
  ext index
  by_cases first : index = (addSocket socket slots).2
  · subst first
    refine iff_of_false ?_ (free_stray slots handle socket)
    rintro ⟨occupant, occupied, astray⟩
    rw [addSocket_slot] at occupied
    cases occupied
    simp at astray
  · simp only [strays, Set.mem_ofPred_eq, addSocket_other socket slots index first]
    refine exists_congr fun occupant => and_congr_right fun _ => ?_
    by_cases mine : occupant = socket
    · subst mine
      simp only [Function.update_self, dead, ne_eq, reduceCtorEq, not_false_eq_true, iff_true,
        Option.some.injEq]
      omega
    · rw [Function.update_of_ne mine]

theorem strays_destroyed (slots : List (Option Addr)) (handle : Addr → Option Int)
    (socket : Addr) (home : Nat) (live : handle socket = some (home : Int))
    (slot : slots[home]? = some (some socket)) :
    strays (slots.set home none) (Function.update handle socket none) = strays slots handle := by
  ext index
  by_cases cleared : home = index
  · subst cleared
    refine iff_of_false ?_ ?_
    · rintro ⟨occupant, occupied, -⟩
      simp [List.getElem?_set] at occupied
    · rintro ⟨occupant, occupied, astray⟩
      rw [slot] at occupied
      cases occupied
      exact astray live
  · simp only [strays, Set.mem_ofPred_eq, List.getElem?_set_ne cleared]
    refine exists_congr fun occupant => and_congr_right fun _ => ?_
    by_cases mine : occupant = socket
    · subst mine
      simp only [Function.update_self, live, ne_eq, reduceCtorEq, not_false_eq_true, true_iff,
        Option.some.injEq]
      omega
    · rw [Function.update_of_ne mine]

omit [DecidableEq Addr] in
/-- The second registration of an object that has its slot. -/
theorem strays_again (slots : List (Option Addr)) (handle : Addr → Option Int) (socket : Addr)
    (home : Nat) (live : handle socket = some (home : Int))
    (slot : slots[home]? = some (some socket)) :
    strays (addSocket socket slots).1 handle =
      insert (addSocket socket slots).2 (strays slots handle) := by
  ext index
  rw [Set.mem_insert_iff]
  by_cases second : index = (addSocket socket slots).2
  · subst second
    refine iff_of_true ⟨socket, addSocket_slot socket slots, ?_⟩ (.inl rfl)
    rw [live]
    intro same
    have taken : home = (addSocket socket slots).2 := by exact_mod_cast Option.some.inj same
    exact addSocket_free socket socket slots (taken ▸ slot)
  · simp only [second, false_or, strays, Set.mem_ofPred_eq,
      addSocket_other socket slots index second]

/-- What a call does to the occupied slots: it leaves the strays as they are, or it accepts a
connection and makes one more. -/
def Leaks (sockets next : Sockets Addr Ctx) : Prop :=
  (strays next.socketArray next.handle = strays sockets.socketArray sockets.handle ∧
      next.accepted = sockets.accepted) ∨
    ∃ index pair, index ∉ strays sockets.socketArray sockets.handle ∧
      strays next.socketArray next.handle =
        insert index (strays sockets.socketArray sockets.handle) ∧
      next.accepted = pair :: sockets.accepted

variable (sockets next : Sockets Addr Ctx)

omit [DecidableEq Ctx] in
theorem construct_leaks (socket : Addr) (known : Registered sockets)
    (done : construct sockets socket = some next) : Registered next ∧ Leaks sockets next := by
  rcases construct_cases sockets next socket done with ⟨dead, rfl⟩
  refine ⟨?_, .inl ⟨strays_constructed _ _ socket dead, rfl⟩⟩
  apply placed_registered sockets _ socket (addSocket socket sockets.socketArray).2 known
  exact
    { dead
      keeps := fun place other => addSocket_keeps socket other sockets.socketArray place
      registered := addSocket_slot socket sockets.socketArray
      handle := rfl }

omit [DecidableEq Ctx] in
theorem destruct_leaks (socket : Addr) (known : Registered sockets)
    (done : destruct sockets socket = some next) : Registered next ∧ Leaks sockets next := by
  rcases destruct_cases sockets next socket done with ⟨nHandle, live, rfl⟩
  rcases known socket nHandle live with ⟨nonneg, slot⟩
  refine ⟨cleared_registered sockets _ socket nHandle known live rfl rfl, .inl ⟨?_, rfl⟩⟩
  apply strays_destroyed _ _ socket nHandle.toNat _ slot
  rw [live, Int.toNat_of_nonneg nonneg]

theorem acceptNew_leaks (client : Ctx) (socket : Addr) (known : Registered sockets)
    (done : acceptNew sockets client socket = some next) :
    Registered next ∧ Leaks sockets next := by
  rcases acceptNew_entered sockets next client socket done with ⟨home, index, entered⟩
  refine ⟨placed_registered sockets next socket home known entered.toPlaced, ?_⟩
  simp only [acceptNew, Option.map_eq_some_iff] at done
  rcases done with ⟨built, construction, rfl⟩
  rcases construct_cases sockets built socket construction with ⟨dead, rfl⟩
  have first := strays_constructed sockets.socketArray sockets.handle socket dead
  have slot := addSocket_slot socket sockets.socketArray
  refine .inr ⟨(addSocket socket (addSocket socket sockets.socketArray).1).2, _, ?_, ?_, rfl⟩
  · rw [← first]
    exact free_stray _ _ socket
  · rw [← first]
    exact strays_again _ _ socket (addSocket socket sockets.socketArray).2 (by simp) slot

theorem openSocket_leaks (ctx : Ctx) (memory : Option Addr) (outcome : NetResult)
    (known : Registered sockets)
    (done : openSocket sockets ctx memory outcome = some next) :
    Registered next ∧ Leaks sockets next := by
  cases memory with
  | none =>
      cases done
      exact ⟨known, .inl ⟨rfl, rfl⟩⟩
  | some socket =>
      simp only [openSocket, Option.map_eq_some_iff] at done
      rcases done with ⟨built, construction, rfl⟩
      exact construct_leaks sockets built socket known construction

theorem step_leaks (call : SocketHandles.NetCall Addr Ctx) (known : Registered sockets)
    (done : SocketHandles.step sockets call = some next) :
    Registered next ∧ Leaks sockets next := by
  have still : Registered sockets ∧ Leaks sockets sockets := ⟨known, .inl ⟨rfl, rfl⟩⟩
  cases call with
  | create socket => exact construct_leaks sockets next socket known done
  | adopt socket => exact construct_leaks sockets next socket known done
  | destroy socket => exact destruct_leaks sockets next socket known done
  | netInit ctx =>
      cases done
      exact still
  | netConnect ctx tcp memory outcome =>
      simp only [SocketHandles.step] at done
      split at done
      · cases done
        exact still
      · exact openSocket_leaks sockets next ctx memory outcome known done
  | netBind ctx tcp bindIp memory outcome =>
      simp only [SocketHandles.step] at done
      split at done
      · cases done
        exact still
      · split at done
        · cases done
          exact still
        · exact openSocket_leaks sockets next ctx memory outcome known done
  | netAccept bindCtx clientCtx clientIp connection memory =>
      simp only [SocketHandles.step] at done
      split at done
      · cases done
        exact still
      split at done
      · cases done
      · cases done
        exact still
      simp only [Option.ite_none_left_eq_some] at done
      rcases done with ⟨-, done⟩
      split at done
      · cases done
        exact still
      · split at done
        · cases done
          exact still
        · exact acceptNew_leaks sockets next clientCtx _ known done
  | netFree ctx =>
      simp only [SocketHandles.step] at done
      split at done
      · cases done
      · cases done
        exact still
      · rcases Option.map_eq_some_iff.mp done with ⟨left, destruction, rfl⟩
        exact destruct_leaks sockets left _ known destruction

end Strays

structure Leaked (since : Set Nat) (sockets : Sockets Addr Ctx) : Prop where
  known : Registered sockets
  kept : since ⊆ strays sockets.socketArray sockets.handle
  count : (strays sockets.socketArray sockets.handle).encard = sockets.accepted.length

theorem step_leaked (since : Set Nat) (sockets : Sockets Addr Ctx)
    (call : SocketHandles.NetCall Addr Ctx) (next : Sockets Addr Ctx)
    (leaked : Leaked since sockets) (done : SocketHandles.step sockets call = some next) :
    Leaked since next := by
  rcases step_leaks sockets next call leaked.known done with
    ⟨known, ⟨same, accepted⟩ | ⟨index, pair, fresh, more, accepted⟩⟩
  · exact ⟨known, same ▸ leaked.kept, by rw [same, accepted, leaked.count]⟩
  · refine ⟨known, ?_, ?_⟩
    · rw [more]
      exact leaked.kept.trans (Set.subset_insert _ _)
    · rw [more, Set.encard_insert_of_notMem fresh, leaked.count, accepted]
      simp

omit [DecidableEq Addr] [DecidableEq Ctx] in
theorem initial_leaked : Leaked ∅ (SocketHandles.initial : Sockets Addr Ctx) where
  known := by simp [Registered, SocketHandles.initial]
  kept := Set.empty_subset _
  count := by simp [strays, SocketHandles.initial]

omit [DecidableEq Addr] in
theorem strays_bound (slots : List (Option Addr)) (handle : Addr → Option Int) :
    (strays slots handle).encard ≤ slots.length := by
  have inside : strays slots handle ⊆ (Finset.range slots.length : Set Nat) := by
    rintro index ⟨socket, occupied, -⟩
    simpa using (List.getElem?_eq_some_iff.mp occupied).1
  have size := Set.encard_le_encard inside
  rwa [Set.encard_coe_eq_coe_finsetCard, Finset.card_range] at size

/-- In every run: each accepted connection costs one slot for ever. There are exactly as many
occupied slots without a live object in its own place as connections have been accepted, no
call gives one of them back, and the table has room for all of them. -/
theorem accepts_leak (earlier later : List (SocketHandles.NetCall Addr Ctx))
    (middle final : Sockets Addr Ctx)
    (reached : run SocketHandles.step SocketHandles.initial earlier = some middle)
    (goes : run SocketHandles.step middle later = some final) :
    (strays final.socketArray final.handle).encard = final.accepted.length ∧
      strays middle.socketArray middle.handle ⊆ strays final.socketArray final.handle ∧
      final.accepted.length ≤ final.socketArray.length := by
  have before := run_invariant (Leaked ∅) (step_leaked ∅) SocketHandles.initial middle earlier
    initial_leaked reached
  have start : Leaked (strays middle.socketArray middle.handle) middle :=
    ⟨before.known, Set.Subset.refl _, before.count⟩
  have leaked := run_invariant _ (step_leaked _) middle final later start goes
  refine ⟨leaked.count, leaked.kept, ?_⟩
  have bound := strays_bound final.socketArray final.handle
  rw [leaked.count] at bound
  exact_mod_cast bound

def acceptTwice : List (SocketHandles.NetCall Nat Nat) :=
  [.netBind 0 true false (some 1) .ok, .netAccept 0 1 none true (some 2), .netFree 1,
    .netAccept 0 2 none true (some 2)]

theorem acceptTwice_leaks : ∃ final : Sockets Nat Nat,
    run SocketHandles.step SocketHandles.initial acceptTwice = some final ∧
      (strays final.socketArray final.handle).encard = 2 ∧
      final.socketArray = [some 1, some 2, some 2, some 2] := by
  refine ⟨(run SocketHandles.step SocketHandles.initial acceptTwice).get (by rfl),
    (Option.some_get _).symm, ?_, by rfl⟩
  exact (accepts_leak acceptTwice [] _ _ (Option.some_get (by rfl)).symm rfl).1

end CircleStdlib.AcceptedSlots
