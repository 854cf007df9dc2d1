import Mathlib.Data.Set.Insert
import Mathlib.Data.List.Basic

/-!
A relay that passes on what a sender tells it, over a channel that keeps the order. The sender
may tell a message more than once. A message that has to be passed on exactly once has an
identifier, which the relay holds until the sender releases it; what comes under an identifier
that is held is not passed on again. The sender may begin anew. The relay then keeps what it
holds if both have agreed on it, before and now. Every other message is passed on each time it
comes, and says whether it has come before. `Tells` is the discipline of the sender for the
messages that it answers for: an identifier is not taken for a new message while it waits, and
is not told again once it has been released.
-/

namespace CircleStdlib.Relay

variable {Id Message : Type}

inductive Level where
  | atMostOnce
  | atLeastOnce
  | exactlyOnce
  deriving DecidableEq, Repr

inductive Note (Id Message : Type) where
  | begin (lasting : Bool)
  | atMostOnce (message : Message)
  | once (identifier : Id) (message : Message)
  | atLeastOnce (again : Bool) (message : Message)
  | release (identifier : Id)
  | other

structure Copy (Message : Type) where
  level : Level
  again : Bool
  message : Message

/-- `lasting` says that what is held outlives the next beginning. -/
structure State (Id Message : Type) where
  held : List Id
  passed : List (Copy Message)
  lasting : Bool

def fresh : State Id Message := ⟨[], [], false⟩

def State.pass (state : State Id Message) (copy : Copy Message) : State Id Message :=
  { state with passed := state.passed ++ [copy] }

def hear [DecidableEq Id] (state : State Id Message) : Note Id Message → State Id Message
  | .begin lasting =>
      { state with held := if lasting && state.lasting then state.held else [], lasting }
  | .atMostOnce message => state.pass ⟨.atMostOnce, false, message⟩
  | .once identifier message =>
      if identifier ∈ state.held then state
      else
        { state with held := identifier :: state.held }.pass ⟨.exactlyOnce, false, message⟩
  | .atLeastOnce again message => state.pass ⟨.atLeastOnce, again, message⟩
  | .release identifier => { state with held := state.held.filter (· ≠ identifier) }
  | .other => state

def relayed [DecidableEq Id] (notes : List (Note Id Message)) : State Id Message :=
  notes.foldl hear fresh

/-- What the sender knows: the identifiers that wait, and what it has been asked to send and
answers for. -/
structure Sender (Id Message : Type) where
  waiting : Set Id
  asked : List (Level × Message)
  lasting : Bool

def Sender.empty : Sender Id Message := ⟨∅, [], false⟩

inductive Tells (sender : Sender Id Message) : Note Id Message → Sender Id Message → Prop where
  | begins (lasting : Bool) :
      Tells sender (.begin lasting)
        ⟨if lasting && sender.lasting then sender.waiting else ∅, sender.asked, lasting⟩
  | mentions (message : Message) : Tells sender (.atMostOnce message) sender
  | asksOnce (identifier : Id) (message : Message) (unused : identifier ∉ sender.waiting) :
      Tells sender (.once identifier message)
        ⟨insert identifier sender.waiting, sender.asked ++ [(.exactlyOnce, message)],
          sender.lasting⟩
  | asks (message : Message) :
      Tells sender (.atLeastOnce false message)
        ⟨sender.waiting, sender.asked ++ [(.atLeastOnce, message)], sender.lasting⟩
  | repeatsOnce (identifier : Id) (message : Message) (waits : identifier ∈ sender.waiting) :
      Tells sender (.once identifier message) sender
  | repeats (message : Message) (told : (.atLeastOnce, message) ∈ sender.asked) :
      Tells sender (.atLeastOnce true message) sender
  | releases (identifier : Id) :
      Tells sender (.release identifier)
        ⟨sender.waiting \ {identifier}, sender.asked, sender.lasting⟩
  | silent : Tells sender .other sender

/-- The copies that are not repetitions, of the messages that are answered for. -/
def originals (passed : List (Copy Message)) : List (Level × Message) :=
  (passed.filter fun copy => !copy.again && copy.level ≠ .atMostOnce).map fun copy =>
    (copy.level, copy.message)

structure Agrees (sender : Sender Id Message) (state : State Id Message) : Prop where
  lasting : state.lasting = sender.lasting
  held : ∀ identifier, identifier ∈ state.held ↔ identifier ∈ sender.waiting
  originals : originals state.passed = sender.asked
  asked : ∀ copy ∈ state.passed, copy.level ≠ .atMostOnce →
    (copy.level, copy.message) ∈ sender.asked
  single : ∀ copy ∈ state.passed, copy.level = .exactlyOnce → copy.again = false

theorem agrees_empty : Agrees (.empty : Sender Id Message) fresh :=
  ⟨rfl, by simp [fresh, Sender.empty], rfl, by simp [fresh], by simp [fresh]⟩

theorem originals_append (passed more : List (Copy Message)) :
    originals (passed ++ more) = originals passed ++ originals more := by
  simp [originals]

/-- One more copy has been passed on. -/
theorem agrees_passed (sender : Sender Id Message) (state : State Id Message)
    (waiting : Set Id) (identifiers : List Id) (copy : Copy Message)
    (held : ∀ identifier, identifier ∈ identifiers ↔ identifier ∈ waiting)
    (told : copy.level ≠ .atMostOnce →
      (copy.level, copy.message) ∈ sender.asked ++ originals [copy])
    (single : copy.level = .exactlyOnce → copy.again = false) (agrees : Agrees sender state) :
    Agrees ⟨waiting, sender.asked ++ originals [copy], sender.lasting⟩
      ({ state with held := identifiers }.pass copy) := by
  refine ⟨agrees.lasting, held, ?_, fun other member => ?_, fun other member once => ?_⟩
  · exact (originals_append state.passed [copy]).trans (by rw [agrees.originals])
  · intro answered
    rcases List.mem_append.mp member with old | new
    · exact List.mem_append_left _ (agrees.asked other old answered)
    · rw [List.mem_singleton.mp new] at answered ⊢
      exact told answered
  · rcases List.mem_append.mp member with old | new
    · exact agrees.single other old once
    · rw [List.mem_singleton.mp new] at once ⊢
      exact single once

/-- A copy of something that is not answered for, or has been answered for, adds nothing. -/
theorem agrees_extra (sender : Sender Id Message) (state : State Id Message)
    (copy : Copy Message) (nothing : originals [copy] = [])
    (told : copy.level ≠ .atMostOnce → (copy.level, copy.message) ∈ sender.asked)
    (single : copy.level = .exactlyOnce → copy.again = false) (agrees : Agrees sender state) :
    Agrees sender (state.pass copy) := by
  have passed := agrees_passed sender state sender.waiting state.held copy agrees.held
    (fun answered => List.mem_append_left _ (told answered)) single agrees
  rw [nothing, List.append_nil] at passed
  exact passed

/-- What the sender tells, the relay takes. -/
theorem tells_agrees [DecidableEq Id] (sender next : Sender Id Message) (note : Note Id Message)
    (state : State Id Message) (tells : Tells sender note next) (agrees : Agrees sender state) :
    Agrees next (hear state note) := by
  cases tells with
  | begins lasting =>
      refine ⟨rfl, fun other => ?_, agrees.originals, agrees.asked, agrees.single⟩
      simp only [hear, agrees.lasting]
      split
      · exact agrees.held other
      · simp
  | mentions message =>
      exact agrees_extra sender state ⟨.atMostOnce, false, message⟩ rfl
        (fun answered => absurd rfl answered) (fun _ => rfl) agrees
  | asksOnce identifier message unused =>
      have free : identifier ∉ state.held := fun held => unused ((agrees.held identifier).mp held)
      rw [hear, if_neg free]
      refine agrees_passed sender state _ _ ⟨.exactlyOnce, false, message⟩ (fun other => ?_)
        (by simp [originals]) (fun _ => rfl) agrees
      simp [agrees.held other]
  | asks message =>
      exact agrees_passed sender state _ _ ⟨.atLeastOnce, false, message⟩ agrees.held
        (by simp [originals]) (fun once => nomatch once) agrees
  | repeatsOnce identifier message waits =>
      -- the relay still holds the identifier
      rw [hear, if_pos ((agrees.held identifier).mpr waits)]
      exact agrees
  | repeats message told =>
      exact agrees_extra sender state ⟨.atLeastOnce, true, message⟩ rfl (fun _ => told)
        (fun once => nomatch once) agrees
  | releases identifier =>
      refine ⟨agrees.lasting, fun other => ?_, agrees.originals, agrees.asked, agrees.single⟩
      simp [hear, agrees.held other]
  | silent => exact agrees

inductive TellsAll : Sender Id Message → List (Note Id Message) → Sender Id Message → Prop where
  | nil (sender : Sender Id Message) : TellsAll sender [] sender
  | cons {sender middle last : Sender Id Message} {note : Note Id Message}
      {notes : List (Note Id Message)} (first : Tells sender note middle)
      (rest : TellsAll middle notes last) : TellsAll sender (note :: notes) last

theorem tellsAll_append {sender middle last : Sender Id Message}
    {left right : List (Note Id Message)} (first : TellsAll sender left middle)
    (second : TellsAll middle right last) : TellsAll sender (left ++ right) last := by
  induction first with
  | nil => exact second
  | cons first rest ih => exact .cons first (ih second)

theorem tellsAll_agrees [DecidableEq Id] (sender last : Sender Id Message)
    (notes : List (Note Id Message)) (state : State Id Message)
    (tells : TellsAll sender notes last) (agrees : Agrees sender state) :
    Agrees last (notes.foldl hear state) := by
  induction tells generalizing state with
  | nil => exact agrees
  | cons first rest ih => exact ih _ (tells_agrees _ _ _ state first agrees)

/-- What has to be passed on exactly once is passed on exactly once and in the order in which it
was asked for. -/
theorem once_passed (sender : Sender Id Message) (state : State Id Message)
    (agrees : Agrees sender state) :
    (state.passed.filter (·.level = .exactlyOnce)).map (·.message) =
      (sender.asked.filter (·.1 = .exactlyOnce)).map (·.2) := by
  have all : ∀ passed : List (Copy Message),
      (∀ copy ∈ passed, copy.level = .exactlyOnce → copy.again = false) →
      (passed.filter (·.level = .exactlyOnce)).map (·.message) =
        ((originals passed).filter (·.1 = .exactlyOnce)).map (·.2) := by
    intro passed single
    induction passed with
    | nil => rfl
    | cons copy rest ih =>
        have others := ih fun other member => single other (List.mem_cons_of_mem _ member)
        have own := single copy List.mem_cons_self
        rcases copy with ⟨level, again, message⟩
        cases level with
        | atMostOnce => simpa [originals] using others
        | atLeastOnce => cases again <;> simpa [originals] using others
        | exactlyOnce =>
            cases own rfl
            simpa [originals] using others
  rw [← agrees.originals]
  exact all state.passed agrees.single

end CircleStdlib.Relay
