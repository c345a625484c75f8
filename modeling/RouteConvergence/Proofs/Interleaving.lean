/-
RouteConvergence.Proofs.Interleaving — two procedures in one world, call
by call.

* `Race` — two procedures under way in one world, and `Race.run`, the calls
  of both in the order of a schedule. Every call is made at once and as a
  whole; between two calls of one procedure the other may make any number.
* `Program.Guarded` — a procedure makes only allowed changes, as long as the
  world changes in allowed ways between its calls, and ends with a value
  and a world as they should be.
* `Race.Guarded.run` — two procedures that are guarded by one relation keep
  it together, whatever the schedule.

What a cycle does is known for a procedure that runs alone. The laws for
`Guarded` carry that over: a procedure of at most one call
(`Program.Single`) does in a race what it does alone.
-/
import RouteConvergence.Proofs.Runs

namespace RouteConvergence

/-! ## Races -/

/-- Which of two procedures makes the next call. -/
inductive Side
  | left
  | right
deriving DecidableEq, Repr

namespace Program

/-- One call of a procedure, if it is not done. -/
def step {α : Type} : Program α → World → Program α × World
  | done value, w => (done value, w)
  | ask request next, w => (next (World.answer request w).1, (World.answer request w).2)

/-- Whether a procedure has made all its calls. -/
def isDone {α : Type} : Program α → Bool
  | done _ => true
  | ask _ _ => false

theorem isDone_iff {α : Type} {p : Program α} : p.isDone = true ↔ ∃ value, p = done value := by
  cases p <;> simp [isDone]

end Program

/-- Two procedures under way in one world. -/
structure Race (α β : Type) where
  world : World
  left : Program α
  right : Program β

namespace Race

variable {α β : Type}

/-- The race after one call of a side. -/
def step (r : Race α β) : Side → Race α β
  | .left => { r with world := (r.left.step r.world).2, left := (r.left.step r.world).1 }
  | .right => { r with world := (r.right.step r.world).2, right := (r.right.step r.world).1 }

/-- The race after the calls of a schedule. -/
def run (r : Race α β) (schedule : List Side) : Race α β := schedule.foldl step r

end Race

/-! ## Guarded procedures -/

/-- Changes of a world that leave it as all who change it expect it: what they
lead to can be gone on from, and they can follow each other. -/
structure Allowed (allows : World → World → Prop) : Prop where
  settled : ∀ {w w' : World}, allows w w' → allows w' w'
  trans : ∀ {w w' w'' : World}, allows w w' → allows w' w'' → allows w w''

/-- Facts about a value and a world that allowed changes keep. -/
def Kept {α : Type} (allows : World → World → Prop) (post : α → World → Prop) : Prop :=
  ∀ (value : α) (w w' : World), post value w → allows w w' → post value w'

namespace Program

/-- **A guarded procedure**: every call of it is an allowed change in every
world that allowed changes can have led to by then, and it ends as it
should. -/
def Guarded {α : Type} (allows : World → World → Prop) (post : α → World → Prop) :
    Program α → World → Prop
  | done value, w => post value w
  | ask request next, w => ∀ w', allows w w' → allows w' (World.answer request w').2 ∧
      Guarded allows post (next (World.answer request w').1) (World.answer request w').2

variable {α β : Type} {allows : World → World → Prop} {post : α → World → Prop}

/-- Allowed changes in between do not matter. -/
theorem Guarded.kept (hallows : Allowed allows) (hpost : Kept allows post) {p : Program α}
    {w w' : World} (h : p.Guarded allows post w) (hw : allows w w') : p.Guarded allows post w' := by
  cases p with
  | done value => exact hpost value w w' h hw
  | ask request next => exact fun w'' hw'' => h w'' (hallows.trans hw hw'')

theorem Guarded.mono {post' : α → World → Prop} {p : Program α} {w : World}
    (h : p.Guarded allows post w) (himp : ∀ value w', post value w' → post' value w') :
    p.Guarded allows post' w := by
  induction p generalizing w with
  | done value => exact himp value w h
  | ask request next ih => exact fun w' hw' => ⟨(h w' hw').1, ih _ (h w' hw').2⟩

/-- A guarded procedure ends in a world that can be gone on from. -/
theorem Guarded.settled (hallows : Allowed allows) {p : Program α} {w : World} (hw : allows w w)
    (h : p.Guarded allows post w) :
    p.Guarded allows (fun value w' => allows w' w' ∧ post value w') w := by
  induction p generalizing w with
  | done value => exact ⟨hw, h⟩
  | ask request next ih =>
    exact fun w' hw' => ⟨(h w' hw').1, ih _ (hallows.settled (h w' hw').1) (h w' hw').2⟩

/-- **One guarded procedure after the other** is guarded. -/
theorem Guarded.bind {post' : β → World → Prop} {p : Program α} {q : α → Program β} {w : World}
    (h : p.Guarded allows (fun value w' => (q value).Guarded allows post' w') w) :
    (p >>= q).Guarded allows post' w := by
  show (p.andThen q).Guarded allows post' w
  induction p generalizing w with
  | done value => exact h
  | ask request next ih => exact fun w' hw' => ⟨(h w' hw').1, ih _ (h w' hw').2⟩

/-- A call of a guarded procedure is an allowed change and leaves it guarded. -/
theorem Guarded.step {p : Program α} {w : World} (h : p.Guarded allows post w)
    (hw : allows w w) :
    allows w (p.step w).2 ∧ (p.step w).1.Guarded allows post (p.step w).2 := by
  cases p with
  | done value => exact ⟨hw, h⟩
  | ask request next => exact h w hw

/-! ### Procedures of at most one call -/

/-- A procedure that makes one call at most. -/
def Single : Program α → Prop
  | done _ => True
  | ask _ next => ∀ answer, ∃ value, next answer = done value

/-- **What a procedure of one call does alone** it does in a race, in the world
it meets. -/
theorem Guarded.single {p : Program α} {w : World} (hp : p.Single) (hw : allows w w)
    (h : ∀ w', allows w w' → allows w' (w'.run p).2 ∧ post (w'.run p).1 (w'.run p).2) :
    p.Guarded allows post w := by
  cases p with
  | done value => exact (h w hw).2
  | ask request next =>
    intro w' hw'
    obtain ⟨value, hvalue⟩ := hp (World.answer request w').1
    have hrun : w'.run (ask request next) = (value, (World.answer request w').2) := by
      show (next (World.answer request w').1).runWith World.answer (World.answer request w').2 = _
      rw [hvalue]
      rfl
    have hdone := h w' hw'
    rw [hrun] at hdone
    rw [hvalue]
    exact hdone

theorem single_call (request : Request) : (call request).Single := fun answer => ⟨answer, rfl⟩

theorem single_call_bind {request : Request} {f : request.Answer → Program β}
    (h : ∀ answer, ∃ value, f answer = done value) : (call request >>= f).Single := h

/-! ### Steps that may end a cycle -/

/-- A step that goes on, and the next one. -/
theorem Guarded.stepBind {post' : Except Stop β → World → Prop} {x : Step α} {f : α → Step β}
    {w : World}
    (h : Guarded allows
      (fun result w' => ∃ value, result = .ok value ∧ (f value).run.Guarded allows post' w')
      x.run w) : (x >>= f).run.Guarded allows post' w := by
  show Guarded allows post' (x.run >>= ExceptT.bindCont f) w
  refine Guarded.bind (h.mono ?_)
  rintro _ w' ⟨value, rfl, hvalue⟩
  exact hvalue

/-- A procedure as a step. -/
theorem Guarded.lift {post' : Except Stop α → World → Prop} {p : Program α} {w : World}
    (h : p.Guarded allows (fun value w' => post' (.ok value) w') w) :
    (liftM p : Step α).run.Guarded allows post' w :=
  Guarded.bind (q := fun value => (pure (Except.ok value) : Program (Except Stop α))) h

/-- A procedure that does not fail, as a step. -/
theorem Guarded.attempt {post' : Except Stop α → World → Prop} {p : Program (Outcome α)}
    {w : World}
    (h : p.Guarded allows (fun outcome w' => ∃ value, outcome = .ok value ∧ post' (.ok value) w')
      w) : (Step.attempt p).run.Guarded allows post' w := by
  refine Guarded.stepBind (Guarded.lift (h.mono ?_))
  rintro _ w' ⟨value, rfl, hvalue⟩
  exact ⟨_, rfl, hvalue⟩

end Program

/-! ## Guarded races -/

namespace Race

variable {α β : Type} {allows : World → World → Prop} {postLeft : α → World → Prop}
  {postRight : β → World → Prop}

/-- Both procedures are guarded by one relation, in a world it has led to. -/
structure Guarded (allows : World → World → Prop) (postLeft : α → World → Prop)
    (postRight : β → World → Prop) (start : World) (r : Race α β) : Prop where
  allowed : allows start r.world
  left : r.left.Guarded allows postLeft r.world
  right : r.right.Guarded allows postRight r.world

theorem Guarded.step (hallows : Allowed allows) (hleft : Kept allows postLeft)
    (hright : Kept allows postRight) {start : World} {r : Race α β}
    (h : r.Guarded allows postLeft postRight start) (side : Side) :
    (r.step side).Guarded allows postLeft postRight start := by
  cases side with
  | left =>
    obtain ⟨hw, hp⟩ := h.left.step (hallows.settled h.allowed)
    exact ⟨hallows.trans h.allowed hw, hp, h.right.kept hallows hright hw⟩
  | right =>
    obtain ⟨hw, hp⟩ := h.right.step (hallows.settled h.allowed)
    exact ⟨hallows.trans h.allowed hw, h.left.kept hallows hleft hw, hp⟩

/-- **Guarded procedures stay guarded together**, whatever the schedule. -/
theorem Guarded.run (hallows : Allowed allows) (hleft : Kept allows postLeft)
    (hright : Kept allows postRight) {start : World} (schedule : List Side) :
    ∀ {r : Race α β}, r.Guarded allows postLeft postRight start →
      (r.run schedule).Guarded allows postLeft postRight start := by
  induction schedule with
  | nil => exact id
  | cons side rest ih => exact fun h => ih (h.step hallows hleft hright side)

/-- When both are done, what either should end with holds of the world. -/
theorem Guarded.finished {start : World} {r : Race α β}
    (h : r.Guarded allows postLeft postRight start) (hleft : r.left.isDone = true)
    (hright : r.right.isDone = true) :
    allows start r.world ∧ (∃ a, postLeft a r.world) ∧ ∃ b, postRight b r.world := by
  obtain ⟨a, ha⟩ := Program.isDone_iff.1 hleft
  obtain ⟨b, hb⟩ := Program.isDone_iff.1 hright
  have hpostLeft := h.left
  have hpostRight := h.right
  rw [ha] at hpostLeft
  rw [hb] at hpostRight
  exact ⟨h.allowed, ⟨a, hpostLeft⟩, b, hpostRight⟩

end Race

end RouteConvergence
