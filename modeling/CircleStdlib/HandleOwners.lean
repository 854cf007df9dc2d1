import CircleStdlib.SocketHandles

/-!
What the calls of net_sockets.cpp keep of the handle table, although `Accept` registers a socket
twice: a live object is in the slot of its `m_nHandle`, and a context that leads to an object is
the only one that does.
-/

namespace CircleStdlib.HandleOwners

open SocketHandles (Sockets NetResult addSocket addSocket_slot addSocket_other addSocket_free
  construct_cases destruct acceptNew openSocket)

variable {Addr Ctx : Type} [DecidableEq Addr] [DecidableEq Ctx]

/-- Every live object is in the slot of its `m_nHandle`. Other slots may hold anything. -/
def Registered (sockets : Sockets Addr Ctx) : Prop :=
  ∀ socket nHandle, sockets.handle socket = some nHandle →
    0 ≤ nHandle ∧ sockets.socketArray[nHandle.toNat]? = some (some socket)

structure Handles (sockets : Sockets Addr Ctx) : Prop where
  registered : Registered sockets
  led : ∀ ctx, sockets.fd ctx < 0 ∨ ∃ socket,
    SocketHandles.get sockets (sockets.fd ctx) = some (some socket) ∧
      (sockets.handle socket).isSome = true
  apart : ∀ left right socket,
    SocketHandles.get sockets (sockets.fd left) = some (some socket) →
      SocketHandles.get sockets (sockets.fd right) = some (some socket) → left = right

section Table

omit [DecidableEq Addr] in
theorem addSocket_keeps (socket other : Addr) (slots : List (Option Addr)) (index : Nat)
    (occupied : slots[index]? = some (some other)) :
    (addSocket socket slots).1[index]? = some (some other) := by
  rw [addSocket_other socket slots index, occupied]
  intro taken
  exact addSocket_free socket other slots (taken ▸ occupied)

omit [DecidableEq Addr] [DecidableEq Ctx] in
theorem get_negative (sockets : Sockets Addr Ctx) (nHandle : Int) (negative : nHandle < 0) :
    SocketHandles.get sockets nHandle = some none := by
  simp [SocketHandles.get, negative]

omit [DecidableEq Addr] [DecidableEq Ctx] in
theorem get_slot (sockets : Sockets Addr Ctx) (nHandle : Int) (socket : Addr) :
    SocketHandles.get sockets nHandle = some (some socket) ↔
      0 ≤ nHandle ∧ sockets.socketArray[nHandle.toNat]? = some (some socket) := by
  unfold SocketHandles.get
  split
  · simp
    omega
  · simp
    omega

omit [DecidableEq Addr] [DecidableEq Ctx] in
theorem led_alive (sockets : Sockets Addr Ctx) (handles : Handles sockets) (ctx : Ctx)
    (socket : Addr) (leads : SocketHandles.get sockets (sockets.fd ctx) = some (some socket)) :
    (sockets.handle socket).isSome = true := by
  rcases handles.led ctx with negative | ⟨other, same, live⟩
  · rw [get_negative sockets _ negative] at leads
    cases leads
  · rw [same] at leads
    cases leads
    exact live

omit [DecidableEq Addr] in
theorem handles_left (sockets : Sockets Addr Ctx) (handles : Handles sockets) (ctx : Ctx)
    (returned : NetResult) :
    Handles { sockets with fd := Function.update sockets.fd ctx (-1), returned } where
  registered := handles.registered
  led := by
    intro other
    by_cases same : other = ctx
    · subst same
      exact .inl (by simp)
    · simp only [Function.update_of_ne same]
      exact handles.led other
  apart := by
    intro left right socket first second
    by_cases here : left = ctx
    · subst here
      simp [SocketHandles.get] at first
    · by_cases there : right = ctx
      · subst there
        simp [SocketHandles.get] at second
      · simp only [Function.update_of_ne here, Function.update_of_ne there] at first second
        exact handles.apart left right socket first second

structure Placed (sockets : Sockets Addr Ctx) (socket : Addr) (next : Sockets Addr Ctx)
    (home : Nat) : Prop where
  dead : sockets.handle socket = none
  keeps : ∀ (place : Nat) other, sockets.socketArray[place]? = some (some other) →
    next.socketArray[place]? = some (some other)
  registered : next.socketArray[home]? = some (some socket)
  handle : next.handle = Function.update sockets.handle socket (some (home : Int))

/-- The context leads to it by one of the slots, not always by the one in its `m_nHandle`. -/
structure Entered (sockets : Sockets Addr Ctx) (ctx : Ctx) (socket : Addr)
    (next : Sockets Addr Ctx) (home index : Nat) : Prop
    extends Placed sockets socket next home where
  indexed : next.socketArray[index]? = some (some socket)
  fd : next.fd = Function.update sockets.fd ctx (index : Int)

omit [DecidableEq Ctx] in
theorem placed_registered (sockets next : Sockets Addr Ctx) (socket : Addr) (home : Nat)
    (known : Registered sockets) (placed : Placed sockets socket next home) :
    Registered next := by
  intro other nHandle live
  rw [placed.handle] at live
  by_cases same : other = socket
  · subst same
    simp only [Function.update_self, Option.some.injEq] at live
    subst live
    exact ⟨Int.natCast_nonneg _, by simpa using placed.registered⟩
  · rw [Function.update_of_ne same] at live
    rcases known other nHandle live with ⟨nonneg, slot⟩
    exact ⟨nonneg, placed.keeps _ _ slot⟩

section Entry

variable (sockets next : Sockets Addr Ctx) (handles : Handles sockets) (ctx : Ctx)
  (socket : Addr) (home index : Nat) (entered : Entered sockets ctx socket next home index)

include entered

theorem entered_leads (occupant : Addr) :
    SocketHandles.get next (next.fd ctx) = some (some occupant) ↔ occupant = socket := by
  rw [get_slot, entered.fd, Function.update_self, Int.toNat_natCast, entered.indexed]
  constructor
  · rintro ⟨-, same⟩
    cases same
    rfl
  · rintro rfl
    exact ⟨Int.natCast_nonneg _, rfl⟩

include handles

/-- Another context leads where it led before, and not to the new object. -/
theorem entered_other (other : Ctx) (occupant : Addr) (different : other ≠ ctx) :
    SocketHandles.get next (next.fd other) = some (some occupant) ↔
      SocketHandles.get sockets (sockets.fd other) = some (some occupant) := by
  rw [get_slot, get_slot, entered.fd, Function.update_of_ne different]
  constructor
  · rintro ⟨nonneg, slot⟩
    rcases handles.led other with negative | ⟨same, leads, -⟩
    · omega
    · have before := ((get_slot sockets _ _).mp leads).2
      have again := entered.keeps _ _ before
      rw [slot] at again
      cases again
      exact ⟨nonneg, before⟩
  · rintro ⟨nonneg, slot⟩
    exact ⟨nonneg, entered.keeps _ _ slot⟩

omit [DecidableEq Addr] [DecidableEq Ctx] entered in
theorem old_leads (other : Ctx) (occupant : Addr) (dead : sockets.handle socket = none)
    (leads : SocketHandles.get sockets (sockets.fd other) = some (some occupant)) :
    occupant ≠ socket := by
  rintro rfl
  have live := led_alive sockets handles other occupant leads
  simp [dead] at live

theorem handles_entered : Handles next where
  registered :=
    placed_registered sockets next socket home handles.registered entered.toPlaced
  led := by
    intro other
    by_cases same : other = ctx
    · subst same
      refine .inr ⟨socket, ?_, by simp [entered.handle]⟩
      exact (entered_leads sockets next other socket home index entered socket).mpr rfl
    · rcases handles.led other with negative | ⟨occupant, leads, live⟩
      · exact .inl (by rwa [entered.fd, Function.update_of_ne same])
      · refine .inr ⟨occupant, ?_, ?_⟩
        · exact (entered_other sockets next handles ctx socket home index entered other occupant
            same).mpr leads
        · have fresh := old_leads sockets handles socket other occupant entered.dead leads
          rwa [entered.handle, Function.update_of_ne fresh]
  apart := by
    have mine := entered_leads sockets next ctx socket home index entered
    have theirs := entered_other sockets next handles ctx socket home index entered
    have fresh := fun other occupant =>
      old_leads sockets handles socket other occupant entered.dead
    intro left right occupant first second
    by_cases here : left = ctx <;> by_cases there : right = ctx
    · rw [here, there]
    · subst here
      obtain rfl := (mine occupant).mp first
      exact absurd rfl (fresh right occupant ((theirs right occupant there).mp second))
    · subst there
      obtain rfl := (mine occupant).mp second
      exact absurd rfl (fresh left occupant ((theirs left occupant here).mp first))
    · exact handles.apart left right occupant ((theirs left occupant here).mp first)
        ((theirs right occupant there).mp second)

end Entry

theorem openSocket_cases (sockets next : Sockets Addr Ctx) (ctx : Ctx) (memory : Option Addr)
    (outcome : NetResult) (done : openSocket sockets ctx memory outcome = some next) :
    (∃ returned, next = { sockets with returned }) ∨
      ∃ socket home index, memory = some socket ∧
        Entered sockets ctx socket next home index := by
  cases memory with
  | none => exact .inl ⟨_, (Option.some.inj done).symm⟩
  | some socket =>
      simp only [openSocket, Option.map_eq_some_iff] at done
      rcases done with ⟨built, construction, rfl⟩
      rcases construct_cases sockets built socket construction with ⟨dead, rfl⟩
      refine .inr ⟨socket, (addSocket socket sockets.socketArray).2,
        (addSocket socket sockets.socketArray).2, rfl, ?_⟩
      exact
        { dead
          keeps := fun place other => addSocket_keeps socket other sockets.socketArray place
          registered := addSocket_slot socket sockets.socketArray
          indexed := addSocket_slot socket sockets.socketArray
          handle := rfl
          fd := by simp }

-- `Accept` registers the object a second time, and returns the second slot
theorem acceptNew_entered (sockets next : Sockets Addr Ctx) (ctx : Ctx) (socket : Addr)
    (done : acceptNew sockets ctx socket = some next) :
    ∃ home index, Entered sockets ctx socket next home index := by
  simp only [acceptNew, Option.map_eq_some_iff] at done
  rcases done with ⟨built, construction, rfl⟩
  rcases construct_cases sockets built socket construction with ⟨dead, rfl⟩
  refine ⟨(addSocket socket sockets.socketArray).2,
    (addSocket socket (addSocket socket sockets.socketArray).1).2, ?_⟩
  exact
    { dead
      keeps := fun place other occupied => addSocket_keeps socket other _ place
        (addSocket_keeps socket other sockets.socketArray place occupied)
      registered := addSocket_keeps socket socket _ _
        (addSocket_slot socket sockets.socketArray)
      indexed := addSocket_slot socket _
      handle := rfl
      fd := rfl }

theorem accept_cases (sockets next : Sockets Addr Ctx) (bindCtx clientCtx : Ctx)
    (clientIp : Option Nat) (connection : Bool) (memory : Option Addr)
    (done : SocketHandles.step sockets (.netAccept bindCtx clientCtx clientIp connection memory) =
      some next) :
    (∃ returned, next = { sockets with returned }) ∨
      ∃ socket home index, memory = some socket ∧
        Entered sockets clientCtx socket next home index := by
  simp only [SocketHandles.step] at done
  split at done
  · exact .inl ⟨_, (Option.some.inj done).symm⟩
  split at done
  · cases done
  · exact .inl ⟨_, (Option.some.inj done).symm⟩
  simp only [Option.ite_none_left_eq_some] at done
  rcases done with ⟨-, done⟩
  split at done
  · exact .inl ⟨_, (Option.some.inj done).symm⟩
  · split at done
    · exact .inl ⟨_, (Option.some.inj done).symm⟩
    · rename_i socket
      rcases acceptNew_entered sockets next clientCtx socket done with ⟨home, index, entered⟩
      exact .inr ⟨socket, home, index, rfl, entered⟩

omit [DecidableEq Ctx] in
theorem destruct_cases (sockets left : Sockets Addr Ctx) (socket : Addr)
    (done : destruct sockets socket = some left) :
    ∃ nHandle, sockets.handle socket = some nHandle ∧
      left = { sockets with
        socketArray := sockets.socketArray.set nHandle.toNat none
        handle := Function.update sockets.handle socket none } := by
  unfold destruct at done
  split at done
  · cases done
  · rename_i nHandle live
    simp only [Option.ite_none_right_eq_some, Option.some.injEq] at done
    exact ⟨nHandle, live, done.2.symm⟩

omit [DecidableEq Addr] in
theorem cleared_back (slots : List (Option Addr)) (cleared place : Nat) (other : Addr)
    (occupied : (slots.set cleared none)[place]? = some (some other)) :
    slots[place]? = some (some other) := by
  by_cases same : cleared = place
  · subst same
    simp [List.getElem?_set] at occupied
  · rwa [List.getElem?_set_ne same] at occupied

-- the slot of another object is not the one that becomes 0
omit [DecidableEq Addr] [DecidableEq Ctx] in
theorem cleared_keeps (sockets : Sockets Addr Ctx) (socket : Addr) (nHandle : Int)
    (known : Registered sockets) (live : sockets.handle socket = some nHandle) (place : Nat)
    (other : Addr) (different : other ≠ socket)
    (occupied : sockets.socketArray[place]? = some (some other)) :
    (sockets.socketArray.set nHandle.toNat none)[place]? = some (some other) := by
  rw [List.getElem?_set_ne, occupied]
  rintro rfl
  rw [(known socket nHandle live).2] at occupied
  cases occupied
  exact different rfl

omit [DecidableEq Ctx] in
theorem cleared_registered (sockets left : Sockets Addr Ctx) (socket : Addr) (nHandle : Int)
    (known : Registered sockets) (live : sockets.handle socket = some nHandle)
    (slots : left.socketArray = sockets.socketArray.set nHandle.toNat none)
    (handle : left.handle = Function.update sockets.handle socket none) : Registered left := by
  intro other otherHandle otherLive
  rw [handle] at otherLive
  by_cases same : other = socket
  · subst same
    simp at otherLive
  · rw [Function.update_of_ne same] at otherLive
    rcases known other otherHandle otherLive with ⟨nonneg, occupied⟩
    rw [slots]
    exact ⟨nonneg, cleared_keeps sockets socket nHandle known live _ other same occupied⟩

/-- The object that the context leads to leaves its slot; only the context led there. -/
theorem handles_freed (sockets : Sockets Addr Ctx) (handles : Handles sockets) (ctx : Ctx)
    (socket : Addr) (nHandle : Int)
    (leads : SocketHandles.get sockets (sockets.fd ctx) = some (some socket))
    (live : sockets.handle socket = some nHandle) :
    Handles { sockets with
      socketArray := sockets.socketArray.set nHandle.toNat none
      handle := Function.update sockets.handle socket none
      fd := Function.update sockets.fd ctx (-1) } := by
  constructor
  · exact cleared_registered sockets _ socket nHandle handles.registered live rfl rfl
  · intro other
    by_cases same : other = ctx
    · subst same
      exact .inl (by simp)
    · simp only [Function.update_of_ne same]
      rcases handles.led other with negative | ⟨occupant, leadsToo, alive⟩
      · exact .inl negative
      · have different : occupant ≠ socket := by
          rintro rfl
          exact same (handles.apart other ctx occupant leadsToo leads)
        rcases (get_slot sockets _ _).mp leadsToo with ⟨nonneg, occupied⟩
        refine .inr ⟨occupant, (get_slot _ _ _).mpr ⟨nonneg, ?_⟩, ?_⟩
        · exact cleared_keeps sockets socket nHandle handles.registered live _ occupant different
            occupied
        · rwa [Function.update_of_ne different]
  · intro first second occupant leadsFirst leadsSecond
    rw [get_slot] at leadsFirst leadsSecond
    by_cases here : first = ctx
    · subst here
      simp at leadsFirst
    · by_cases there : second = ctx
      · subst there
        simp at leadsSecond
      · simp only [Function.update_of_ne here] at leadsFirst
        simp only [Function.update_of_ne there] at leadsSecond
        exact handles.apart first second occupant
          ((get_slot _ _ _).mpr ⟨leadsFirst.1, cleared_back _ _ _ _ leadsFirst.2⟩)
          ((get_slot _ _ _).mpr ⟨leadsSecond.1, cleared_back _ _ _ _ leadsSecond.2⟩)

end Table

end CircleStdlib.HandleOwners
