/-
RouteConvergence.Proofs.Runs — what running a procedure comes to.

A procedure is a tree of calls, and a proof about it should not walk the
tree: it should see what the procedure answers and which stores it leaves.
The laws here take a run apart at its sequencing points. They hold for all
stores that answer calls, and a world is one way to answer them.

* `Program.runWith_bind` — procedures.
* `Program.runWith_stepBind`, `Program.runWith_ofOutcome`,
  `Program.runWith_attempt`, `Program.runWith_liftStep` — steps that may end
  a cycle.
* `Program.runWith_stepReads` — a step that only reads, followed by others.
* `World.run_bind`, `World.run_step_bind` — the same in a world, with one
  equation for each call that is made in a cycle.
-/
import RouteConvergence.Cycle
import RouteConvergence.World

namespace RouteConvergence

theorem Outcome.isOk_iff_exists {ε α : Type} {outcome : Except ε α} :
    outcome.isOk = true ↔ ∃ value, outcome = .ok value := by
  cases outcome <;> simp [Except.isOk, Except.toBool]

theorem Outcome.isOk_iff {outcome : Outcome Unit} : outcome.isOk = true ↔ outcome = .ok () := by
  rw [isOk_iff_exists]
  exact ⟨fun ⟨_, h⟩ => h, fun h => ⟨(), h⟩⟩

namespace Program

/-! ## Any stores -/

section

variable {σ α β : Type} (answer : (request : Request) → σ → request.Answer × σ) (s : σ)

theorem runWith_call (request : Request) :
    (call request).runWith answer s = answer request s := rfl

theorem runWith_pure (value : α) : (pure value : Program α).runWith answer s = (value, s) := rfl

/-- The second of two procedures meets the stores as the first one leaves
them. -/
theorem runWith_bind (p : Program α) (q : α → Program β) :
    (p >>= q).runWith answer s =
      (q (p.runWith answer s).1).runWith answer (p.runWith answer s).2 :=
  runWith_andThen answer p q s

/-! ### Steps that may end a cycle -/

/-- A step that goes on does so with the stores left by the one before. -/
theorem runWith_stepBind (x : Step α) (f : α → Step β) :
    (x >>= f).run.runWith answer s =
      match x.run.runWith answer s with
      | (.ok value, s') => (f value).run.runWith answer s'
      | (.error stop, s') => (.error stop, s') := by
  show (x.run >>= ExceptT.bindCont f).runWith answer s = _
  rw [runWith_bind]
  rcases x.run.runWith answer s with ⟨_ | _, s'⟩ <;> rfl

/-- A result as a step changes nothing. -/
theorem runWith_ofOutcome (outcome : Outcome α) :
    (Step.ofOutcome outcome).run.runWith answer s =
      (outcome.mapError fun failure => ⟨failure, .routeAndStatus⟩, s) := by
  cases outcome <;> rfl

theorem runWith_ofOutcome_ok (value : α) :
    (Step.ofOutcome (.ok value)).run.runWith answer s = (.ok value, s) := rfl

/-- A procedure as a step answers what it answers. -/
theorem runWith_liftStep (p : Program α) :
    (liftM p : Step α).run.runWith answer s =
      (.ok (p.runWith answer s).1, (p.runWith answer s).2) := by
  show (p >>= fun value => (pure (Except.ok value) : Program (Except Stop α))).runWith answer s = _
  rw [runWith_bind, runWith_pure]

/-- A procedure that may fail ends the cycle with its failure. -/
theorem runWith_attempt (p : Program (Outcome α)) :
    (Step.attempt p).run.runWith answer s =
      ((p.runWith answer s).1.mapError fun failure => ⟨failure, .routeAndStatus⟩,
        (p.runWith answer s).2) := by
  rw [Step.attempt, runWith_stepBind, runWith_liftStep]
  exact runWith_ofOutcome _ _ _

variable {answer s}

/-- Steps that only read, one after the other, are results one after the
other. -/
theorem runWith_stepReads {x : Step α} {f : α → Step β} {r : Except Stop α}
    {g : α → Except Stop β} (hx : x.run.runWith answer s = (r, s))
    (hf : ∀ value, (f value).run.runWith answer s = (g value, s)) :
    (x >>= f).run.runWith answer s = (r >>= g, s) := by
  rw [runWith_stepBind, hx]
  cases r with
  | error stop => rfl
  | ok value => exact hf value

end

end Program

namespace World

/-! ## Procedures -/

@[simp] theorem run_pure {α : Type} (w : World) (value : α) :
    w.run (pure value : Program α) = (value, w) := rfl

/-- The second of two procedures runs in the world the first one leaves. -/
@[simp] theorem run_bind {α β : Type} (w : World) (p : Program α) (q : α → Program β) :
    w.run (p >>= q) = (w.run p).2.run (q (w.run p).1) :=
  Program.runWith_bind answer w p q

theorem run_listDescriptors (w : World) :
    w.run (Program.call .listDescriptors) = (.ok w.descriptors.values, w) := rfl

theorem run_getStatus (w : World) (group : GroupName) :
    w.run (Program.call (.getStatus group)) = (.ok (w.statuses.get? group), w) := rfl

theorem run_arnOf (w : World) (group : GroupName) :
    w.run (Program.call (.arnOf group)) = (w.distributions.arnOf group, w) := rfl

theorem run_createDistribution (w : World) (model : Model) :
    w.run (Program.call (.createDistribution model)) =
      ((w.distributions.create model).1,
        { w with distributions := (w.distributions.create model).2 }) := rfl

theorem run_updateDistribution (w : World) (model : Model) :
    w.run (Program.call (.updateDistribution model)) =
      ((w.distributions.update model).1,
        { w with distributions := (w.distributions.update model).2 }) := rfl

theorem run_deleteDistribution (w : World) (model : Model) :
    w.run (Program.call (.deleteDistribution model)) =
      ((w.distributions.delete model).1,
        { w with distributions := (w.distributions.delete model).2 }) := rfl

theorem run_setFinalizer (w : World) (route : Reference) (state : FinalizerState) :
    w.run (Program.call (.setFinalizer route state)) =
      ((DescriptorStore.setFinalizer w.descriptors route state).1,
        { w with descriptors := (DescriptorStore.setFinalizer w.descriptors route state).2 }) := rfl

theorem run_publish (w : World) (event : Event) :
    w.run (Program.call (.publish event)) =
      (.ok (), { w with events := w.events ++ [event] }) := rfl

/-! ## Steps that may end a cycle -/

/-- A step that goes on does so in the world left by the one before. -/
theorem run_step_bind {α β : Type} (w : World) (x : Step α) (f : α → Step β) :
    w.run (x >>= f).run =
      match w.run x.run with
      | (.ok value, w') => w'.run (f value).run
      | (.error stop, w') => (.error stop, w') := by
  unfold run
  rw [Program.runWith_stepBind]
  rcases x.run.runWith answer w with ⟨_ | _, w'⟩ <;> rfl

/-- A procedure as a step answers what it answers. -/
theorem run_liftStep {α : Type} (w : World) (p : Program α) :
    w.run (liftM p : Step α).run = (.ok (w.run p).1, (w.run p).2) :=
  Program.runWith_liftStep answer w p

end World

end RouteConvergence
