/-
RouteConvergence.Program — procedures that talk to the stores.

A procedure is a value: it is done, or it makes one call to a store and
goes on with the answer. Nothing is said about what the stores do, so the
same procedure can be run alone, beside another one, or against stores
that fail.

* `Request` — the calls, and `Request.Answer`, what each is answered by.
* `Program` — procedures; they are sequenced as a monad.
* `Program.runWith` — a procedure run alone against any stores.
-/
import RouteConvergence.Certificate
import RouteConvergence.Descriptor
import RouteConvergence.Event
import RouteConvergence.Status

namespace RouteConvergence

/-! ## Calls -/

/-- One call to a store. -/
inductive Request
  | listDescriptors
  | setFinalizer (route : Reference) (state : FinalizerState)
  | getStatus (group : GroupName)
  | createStatus (status : StatusRecord)
  | updateStatus (status : StatusRecord)
  | deleteStatus (group : GroupName)
  /-- The resource name of the distribution of a group. -/
  | arnOf (group : GroupName)
  | usableCertificates (now : Instant)
  | createDistribution (model : Model)
  | updateDistribution (model : Model)
  | deleteDistribution (model : Model)
  /-- The records stored under a name. -/
  | listRecords (name : String)
  | applyBatch (batch : Batch)
  | publish (event : Event)

namespace Request

/-- What a call is answered by. -/
@[reducible] def Answer : Request → Type
  | listDescriptors => Outcome (List Descriptor)
  | setFinalizer _ _ => Outcome Unit
  | getStatus _ => Outcome (Option StatusRecord)
  | createStatus _ => Outcome Unit
  | updateStatus _ => Outcome Unit
  | deleteStatus _ => Outcome Unit
  | arnOf _ => Outcome String
  | usableCertificates _ => Outcome (List Certificate)
  | createDistribution _ => Outcome Model
  | updateDistribution _ => Outcome Model
  | deleteDistribution _ => Outcome Unit
  | listRecords _ => Outcome (List RecordSet)
  | applyBatch _ => Outcome Unit
  | publish _ => Outcome Unit

end Request

/-! ## Procedures -/

/-- A procedure that ends with a value. -/
inductive Program (α : Type) : Type
  | done (value : α)
  | ask (request : Request) (next : request.Answer → Program α)

namespace Program

/-- One procedure, then another that depends on its value. -/
def andThen {α β : Type} : Program α → (α → Program β) → Program β
  | done value, rest => rest value
  | ask request next, rest => ask request fun answer => (next answer).andThen rest

instance : Monad Program where
  pure := done
  bind := andThen

/-- The procedure that makes one call and ends with the answer. -/
def call (request : Request) : Program request.Answer := ask request done

/-- Runs a procedure alone against stores that answer every call. -/
def runWith {σ α : Type} (answer : (request : Request) → σ → request.Answer × σ) :
    Program α → σ → α × σ
  | done value, state => (value, state)
  | ask request next, state =>
    let step := answer request state
    (next step.1).runWith answer step.2

/-! ## Laws -/

theorem andThen_assoc {α β γ : Type} (p : Program α) (q : α → Program β)
    (r : β → Program γ) :
    (p.andThen q).andThen r = p.andThen fun a => (q a).andThen r := by
  induction p with
  | done => rfl
  | ask request next ih => simp only [andThen, ih]

/-- A run of two procedures is a run of the first followed by one of the
second. -/
theorem runWith_andThen {σ α β : Type}
    (answer : (request : Request) → σ → request.Answer × σ)
    (p : Program α) (q : α → Program β) (state : σ) :
    (p.andThen q).runWith answer state =
      (q (p.runWith answer state).1).runWith answer (p.runWith answer state).2 := by
  induction p generalizing state with
  | done => rfl
  | ask request next ih => simp only [andThen, runWith, ih]

end Program

end RouteConvergence
