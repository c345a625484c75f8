/-
RouteConvergence.Proofs.Fleet — any number of procedures in one world, call
by call.

* `Fleet` — one procedure for each index, under way in one world, and
  `Fleet.run`, their calls in the order of a schedule.
* `Contract` — which changes the others may make between two calls of a
  procedure, and which its own calls may make.
* `Program.Keeps` — a procedure keeps a contract and ends as it should,
  whatever its contract lets the others do.
* `Fleet.Kept.run` — procedures whose contracts fit together keep them along
  every schedule, and `Fleet.Kept.finished` — each of them ends as it should.

Two cycles of one group change the same things, so that one relation serves
both (`Program.Guarded`). Here everybody changes something else: what one
procedure may do and what it has to bear are two relations, and all that is
asked is that nobody does what another one cannot bear.
-/
import RouteConvergence.Proofs.Interleaving

namespace RouteConvergence

/-! ## Fleets -/

/-- Procedures under way in one world. -/
structure Fleet (ι α : Type) where
  world : World
  procedures : ι → Program α

namespace Fleet

variable {ι α : Type} [DecidableEq ι]

/-- The fleet after one call of a procedure. -/
def step (f : Fleet ι α) (i : ι) : Fleet ι α where
  world := ((f.procedures i).step f.world).2
  procedures j := if j = i then ((f.procedures i).step f.world).1 else f.procedures j

/-- The fleet after the calls of a schedule. -/
def run (f : Fleet ι α) (schedule : List ι) : Fleet ι α := schedule.foldl step f

/-- Every procedure has made all its calls. -/
def Finished (f : Fleet ι α) : Prop := ∀ i, (f.procedures i).isDone = true

theorem run_append (f : Fleet ι α) (first second : List ι) :
    f.run (first ++ second) = (f.run first).run second := List.foldl_append

/-- A procedure that is done stays as it is. -/
theorem procedures_run_done {i : ι} {value : α} (schedule : List ι) :
    ∀ {f : Fleet ι α}, f.procedures i = .done value →
      (f.run schedule).procedures i = .done value := by
  induction schedule with
  | nil => exact id
  | cons j rest ih =>
    intro f hf
    refine ih ?_
    show (if i = j then ((f.procedures j).step f.world).1 else f.procedures i) = _
    split
    · rename_i hij
      rw [← hij, hf]
      rfl
    · exact hf

/-- **A procedure may be run to its end before anybody else makes a call.** -/
theorem run_alone (i : ι) {p : Program α} : ∀ {f : Fleet ι α}, f.procedures i = p →
    ∃ k, f.run (List.replicate k i) =
      ⟨(f.world.run p).2, fun j => if j = i then .done (f.world.run p).1 else f.procedures j⟩ := by
  induction p with
  | done value =>
    intro f hp
    refine ⟨0, congrArg (Fleet.mk f.world) (funext fun j => ?_)⟩
    by_cases hj : j = i
    · rw [hj, hp, if_pos rfl]
      rfl
    · rw [if_neg hj]
  | ask request next ih =>
    intro f hp
    have hworld : (f.step i).world = (World.answer request f.world).2 := by
      rw [step, hp]
      rfl
    have hnext : (f.step i).procedures i = next (World.answer request f.world).1 := by
      rw [step, hp]
      exact if_pos rfl
    obtain ⟨k, hk⟩ := ih _ hnext
    refine ⟨k + 1, ?_⟩
    rw [List.replicate_succ]
    show (f.step i).run (List.replicate k i) = _
    rw [hk, hworld]
    refine congrArg (Fleet.mk _) (funext fun j => ?_)
    by_cases hj : j = i
    · rw [if_pos hj, if_pos hj]
      rfl
    · rw [if_neg hj, if_neg hj]
      exact if_neg hj

end Fleet

/-! ## Contracts -/

/-- What a procedure has to bear between two of its calls, and what a call of it
may do. -/
structure Contract where
  others : World → World → Prop
  own : World → World → Prop
  refl : ∀ w, others w w
  trans : ∀ {w w' w'' : World}, others w w' → others w' w'' → others w w''

namespace Program

variable {α β : Type} {c : Contract} {post : α → World → Prop}

/-- **A procedure that keeps a contract**: in every world that others can have
led to by then, its next call does what it may do, and in the end it has a
value and a world as they should be. -/
def Keeps (c : Contract) (post : α → World → Prop) : Program α → World → Prop
  | done value, w => ∀ w', c.others w w' → post value w'
  | ask request next, w => ∀ w', c.others w w' → c.own w' (World.answer request w').2 ∧
      Keeps c post (next (World.answer request w').1) (World.answer request w').2

/-- What others do in between does not matter. -/
theorem Keeps.kept {p : Program α} {w w' : World} (h : p.Keeps c post w) (hw : c.others w w') :
    p.Keeps c post w' := by
  cases p with
  | done value => exact fun w'' hw'' => h w'' (c.trans hw hw'')
  | ask request next => exact fun w'' hw'' => h w'' (c.trans hw hw'')

theorem Keeps.mono {post' : α → World → Prop} {p : Program α} {w : World}
    (h : p.Keeps c post w) (himp : ∀ value w', post value w' → post' value w') :
    p.Keeps c post' w := by
  induction p generalizing w with
  | done value => exact fun w' hw' => himp value w' (h w' hw')
  | ask request next ih => exact fun w' hw' => ⟨(h w' hw').1, ih _ (h w' hw').2⟩

/-- **One procedure after the other.** -/
theorem Keeps.bind {post' : β → World → Prop} {p : Program α} {q : α → Program β} {w : World}
    (h : p.Keeps c (fun value w' => (q value).Keeps c post' w') w) : (p >>= q).Keeps c post' w := by
  show (p.andThen q).Keeps c post' w
  induction p generalizing w with
  | done value => exact h w (c.refl w)
  | ask request next ih => exact fun w' hw' => ⟨(h w' hw').1, ih _ (h w' hw').2⟩

/-- What a procedure of one call does alone it does beside others, in the world
it meets. -/
theorem Keeps.single {p : Program α} {w : World} (hp : p.Single)
    (h : ∀ w', c.others w w' → c.own w' (w'.run p).2 ∧
      ∀ w'', c.others (w'.run p).2 w'' → post (w'.run p).1 w'') : p.Keeps c post w := by
  cases p with
  | done value => exact (h w (c.refl w)).2
  | ask request next =>
    intro w' hw'
    obtain ⟨value, hvalue⟩ := hp (World.answer request w').1
    have hrun : w'.run (ask request next) = (value, (World.answer request w').2) := by
      show (next (World.answer request w').1).runWith World.answer (World.answer request w').2 = _
      rw [hvalue]
      rfl
    have hdone := h w' hw'
    rw [hrun] at hdone
    rw [hvalue]
    exact hdone

/-- One call of a procedure that keeps its contract, or none if it is done. -/
theorem Keeps.step {p : Program α} {w : World} (h : p.Keeps c post w) :
    ((p.step w).2 = w ∨ c.own w (p.step w).2) ∧ (p.step w).1.Keeps c post (p.step w).2 := by
  cases p with
  | done value => exact ⟨Or.inl rfl, h⟩
  | ask request next =>
    obtain ⟨hown, hnext⟩ := h w (c.refl w)
    exact ⟨Or.inr hown, hnext⟩

end Program

/-! ## Fleets that keep their contracts -/

namespace Fleet

variable {ι α : Type} [DecidableEq ι] {contract : ι → Contract} {post : ι → α → World → Prop}

/-- Every procedure keeps its contract. -/
def Kept (contract : ι → Contract) (post : ι → α → World → Prop) (f : Fleet ι α) : Prop :=
  ∀ i, (f.procedures i).Keeps (contract i) (post i) f.world

/-- Nobody may do what another one cannot bear. -/
def Compatible (contract : ι → Contract) : Prop :=
  ∀ i j, i ≠ j → ∀ {w w' : World}, (contract i).own w w' → (contract j).others w w'

theorem Kept.step (hcompatible : Compatible contract) {f : Fleet ι α} (h : f.Kept contract post)
    (i : ι) : (f.step i).Kept contract post := by
  obtain ⟨hchange, hnext⟩ := (h i).step
  intro j
  show (if j = i then ((f.procedures i).step f.world).1 else f.procedures j).Keeps _ _
    ((f.procedures i).step f.world).2
  split
  · rename_i hj
    subst hj
    exact hnext
  · rename_i hj
    rcases hchange with hsame | hown
    · rw [hsame]
      exact h j
    · exact (h j).kept (hcompatible i j (fun hij => hj hij.symm) hown)

/-- **Contracts are kept along every schedule.** -/
theorem Kept.run (hcompatible : Compatible contract) (schedule : List ι) :
    ∀ {f : Fleet ι α}, f.Kept contract post → (f.run schedule).Kept contract post := by
  induction schedule with
  | nil => exact id
  | cons i rest ih => exact fun h => ih (h.step hcompatible i)

omit [DecidableEq ι] in
/-- A procedure that is done has ended as it should. -/
theorem Kept.finished {f : Fleet ι α} (h : f.Kept contract post) (hdone : f.Finished) (i : ι) :
    ∃ value, f.procedures i = .done value ∧ post i value f.world := by
  obtain ⟨value, hvalue⟩ := Program.isDone_iff.1 (hdone i)
  have hpost := h i
  rw [hvalue] at hpost
  exact ⟨value, hvalue, hpost f.world ((contract i).refl _)⟩

end Fleet

end RouteConvergence
