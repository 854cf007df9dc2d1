import Mathlib.Data.List.Basic

/-!
Consuming a stream that arrives in pieces. `look` tells what a reader in some
state finds at the front of what it holds: it has to wait, it stops, or it takes
an item and goes on. A `feed` looks once after each piece; `Digests` looks as
long as there is something to take. A reader is steady when symbols that arrive
later do not change what it has already found; then the pieces do not matter,
provided that enough looks follow the last symbol.
-/

namespace CircleStdlib.Feeding

universe u v w x
variable {State : Type u} {Symbol : Type v} {Item : Type w} {End : Type x}

inductive Look (State : Type u) (Symbol : Type v) (Item : Type w) (End : Type x) where
  | wait
  | stop (ending : End)
  | take (item : Item) (next : State) (rest : List Symbol)

def Look.map (change : State → State) :
    Look State Symbol Item End → Look State Symbol Item End
  | .wait => .wait
  | .stop ending => .stop ending
  | .take item next rest => .take item (change next) rest

variable (look : State → List Symbol → Look State Symbol Item End)

def feed : State → List Symbol → List (List Symbol) → List Item × Option End
  | _, _, [] => ([], none)
  | state, pending, read :: reads =>
      match look state (pending ++ read) with
      | .wait => feed state (pending ++ read) reads
      | .stop ending => ([], some ending)
      | .take item next rest =>
          let (items, ending) := feed next rest reads
          (item :: items, ending)

inductive Digests : State → List Symbol → List Item → Option End → Prop where
  | wait (state : State) (stream : List Symbol) (found : look state stream = .wait) :
      Digests state stream [] none
  | stop (state : State) (stream : List Symbol) (ending : End)
      (found : look state stream = .stop ending) : Digests state stream [] (some ending)
  | take (state next : State) (stream rest : List Symbol) (item : Item) (items : List Item)
      (ending : Option End) (found : look state stream = .take item next rest)
      (tail : Digests next rest items ending) : Digests state stream (item :: items) ending

structure Steady : Prop where
  stop : ∀ state stream ending more, look state stream = .stop ending →
    look state (stream ++ more) = .stop ending
  take : ∀ state stream item next rest more, look state stream = .take item next rest →
    look state (stream ++ more) = .take item next (rest ++ more)
  shorter : ∀ state stream item next rest, look state stream = .take item next rest →
    rest.length < stream.length

variable {look}

theorem digests_unique (state : State) (stream : List Symbol) (items others : List Item)
    (ending other : Option End) (left : Digests look state stream items ending)
    (right : Digests look state stream others other) : items = others ∧ ending = other := by
  induction left generalizing others other with
  | wait state stream found =>
      cases right with
      | wait => exact ⟨rfl, rfl⟩
      | stop _ _ _ again => cases found.symm.trans again
      | take _ _ _ _ _ _ _ again => cases found.symm.trans again
  | stop state stream ending found =>
      cases right with
      | wait _ _ again => cases found.symm.trans again
      | stop _ _ _ again =>
          cases found.symm.trans again
          exact ⟨rfl, rfl⟩
      | take _ _ _ _ _ _ _ again => cases found.symm.trans again
  | take state next stream rest item items ending found tail ih =>
      cases right with
      | wait _ _ again => cases found.symm.trans again
      | stop _ _ _ again => cases found.symm.trans again
      | take _ _ _ _ _ _ _ again behind =>
          cases found.symm.trans again
          rcases ih _ _ behind with ⟨same, end_⟩
          exact ⟨congrArg (item :: ·) same, end_⟩

/-- A change of the state that no look can tell is not seen in a feed either. -/
theorem feed_map (change : State → State)
    (blind : ∀ state stream, look (change state) stream = (look state stream).map change)
    (state : State) (pending : List Symbol) (reads : List (List Symbol)) :
    feed look (change state) pending reads = feed look state pending reads := by
  induction reads generalizing state pending with
  | nil => rfl
  | cons read reads ih =>
      simp only [feed, blind]
      cases look state (pending ++ read) with
      | wait => exact ih state (pending ++ read)
      | stop ending => rfl
      | take item next rest => simp only [Look.map, ih next rest]

/-- A reader that has to wait stays as it is while nothing arrives. -/
theorem feed_silence (state : State) (pending : List Symbol) (count : Nat)
    (found : look state pending = .wait) :
    feed look state pending (List.replicate count []) = ([], none) := by
  induction count with
  | zero => rfl
  | succ count ih => simp only [List.replicate_succ, feed, List.append_nil, found, ih]

-- Each look either shortens what is held or is the last that finds something.
theorem feed_drains (steady : Steady look) (state : State) (pending : List Symbol) (count : Nat)
    (enough : pending.length < count) :
    Digests look state pending (feed look state pending (List.replicate count [])).1
      (feed look state pending (List.replicate count [])).2 := by
  induction count generalizing state pending with
  | zero => omega
  | succ count ih =>
      simp only [List.replicate_succ, feed, List.append_nil]
      cases found : look state pending with
      | wait =>
          simp only [feed_silence state pending count found]
          exact .wait state pending found
      | stop ending => exact .stop state pending ending found
      | take item next rest =>
          have shorter := steady.shorter state pending item next rest found
          exact .take state next pending rest item _ _ found (ih next rest (by omega))

theorem feed_digests (steady : Steady look) (state : State) (pending : List Symbol)
    (reads : List (List Symbol)) (count : Nat)
    (enough : (pending ++ reads.flatten).length < count) :
    Digests look state (pending ++ reads.flatten)
      (feed look state pending (reads ++ List.replicate count [])).1
      (feed look state pending (reads ++ List.replicate count [])).2 := by
  induction reads generalizing state pending with
  | nil =>
      simp only [List.flatten_nil, List.append_nil, List.nil_append] at enough ⊢
      exact feed_drains steady state pending count enough
  | cons read reads ih =>
      simp only [List.flatten_cons, List.cons_append, feed]
      simp only [List.flatten_cons, ← List.append_assoc] at enough ⊢
      cases found : look state (pending ++ read) with
      | wait => exact ih state (pending ++ read) enough
      | stop ending =>
          exact .stop state _ ending (steady.stop state _ ending reads.flatten found)
      | take item next rest =>
          have shorter := steady.shorter state _ item next rest found
          have whole := steady.take state _ item next rest reads.flatten found
          simp only [List.length_append] at enough shorter
          exact .take state next _ _ item _ _ whole (ih next rest
            (by rw [List.length_append]; omega))

/-- The pieces do not matter. -/
theorem feed_pieces (steady : Steady look) (state : State) (pending : List Symbol)
    (reads others : List (List Symbol)) (count other : Nat)
    (same : reads.flatten = others.flatten)
    (enough : (pending ++ reads.flatten).length < count)
    (plenty : (pending ++ others.flatten).length < other) :
    feed look state pending (reads ++ List.replicate count []) =
      feed look state pending (others ++ List.replicate other []) := by
  have left := feed_digests steady state pending reads count enough
  have right := feed_digests steady state pending others other plenty
  rw [same] at left
  rcases digests_unique state _ _ _ _ _ left right with ⟨items, endings⟩
  exact Prod.ext items endings

end CircleStdlib.Feeding
