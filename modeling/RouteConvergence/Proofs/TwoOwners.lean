/-
RouteConvergence.Proofs.TwoOwners — two owners of names in one zone.

Two owners with tokens of their own work off claims and releases, one
entry after the other. An entry is planned from a listing of its name and
submitted as one batch. No lock is taken, and a batch is not tied to what
was listed, so the other owner may write at the name in between.

* `AliasTask`, `AliasTask.work` — what an owner has to do, and the
  procedure that does it; a whole set of names is such work
  (`AliasTask.upsert_eq_work`, `AliasTask.delete_eq_work`).
* `Planned` — what is known of a batch, wherever it is applied, from the
  zone it was planned from: it leaves the text that was seen there, and it
  is only planned if the name was not in other hands.
* `Race.seenBy` — the zone as a side met it with its last call. If a batch
  is pending, that is the zone it was planned from (`Stage`).
* `Race.Underway` — the invariant of both owners at once, and
  `Race.owners_respect_each_other` — what a step of either can do to a name.

Nothing protects what the other owner has written since the listing:
`Race.fresh_token_erased`.
-/
import Mathlib.Data.List.Induction
import RouteConvergence.Proofs.EntryEffect
import RouteConvergence.Proofs.Interleaving

namespace RouteConvergence

/-! ## What an owner does -/

/-- An entry to be claimed or released. -/
inductive AliasTask
  | claim (target : String) (entry : AliasEntry)
  | release (entry : AliasEntry)

namespace AliasTask

/-- The name of a task's entry. -/
def name : AliasTask → String
  | claim _ entry => entry.domain
  | release entry => entry.domain

def program (token : String) : AliasTask → Program (Outcome Unit)
  | claim target entry => AliasProtocol.upsertEntry token target entry
  | release entry => AliasProtocol.deleteEntry token entry

/-- Some tasks, one after the other. A task that fails keeps none back. -/
def work (token : String) : List AliasTask → Program Unit
  | [] => pure ()
  | task :: rest => do
    let _ ← task.program token
    work token rest

/-- The entries of a set are converged as tasks, but for the report on them. -/
theorem converge_eq_work (token : String) (one : AliasEntry → Program (Outcome Unit))
    (task : AliasEntry → AliasTask) (htask : ∀ entry, one entry = (task entry).program token)
    (entries : List AliasEntry) :
    ((AliasProtocol.converge one entries).andThen fun _ => .done ()) =
      work token (entries.map task) := by
  induction entries with
  | nil => rfl
  | cons entry rest ih =>
    show ((one entry).andThen fun _ => (AliasProtocol.converge one rest).andThen _).andThen _ =
      ((task entry).program token).andThen fun _ => work token (rest.map task)
    rw [Program.andThen_assoc, htask, ← ih]
    congr 1
    funext result
    exact Program.andThen_assoc _ _ _

/-- Pointing the names of a set at its target is claiming them one by one. -/
theorem upsert_eq_work (token : String) (aliases : AliasSet) :
    ((AliasProtocol.upsert token aliases).andThen fun _ => .done ()) =
      work token (aliases.entries.map (.claim aliases.target)) :=
  converge_eq_work token _ (.claim aliases.target) (fun _ => rfl) aliases.entries

/-- Withdrawing the names of a set is releasing them one by one. -/
theorem delete_eq_work (token : String) (aliases : AliasSet) :
    ((AliasProtocol.delete token aliases).andThen fun _ => .done ()) =
      work token (aliases.entries.map .release) :=
  converge_eq_work token _ .release (fun _ => rfl) aliases.entries

end AliasTask

/-! ## A batch and the zone it was planned from -/

/-- What is known of a batch that was planned for a name from a zone, wherever
it is applied. -/
structure Planned (token name : String) (seen : Zone) (batch : Batch) : Prop where
  ours : ¬ Zone.Foreign token (seen.recordsAt name)
  names : ∀ c ∈ batch, c.record.name = name
  /-- It leaves the text that was seen, but for the token. -/
  tokens : ∀ z : Zone, z.fault? batch = none →
    ((z.apply batch).2.tokensAt name).filter (· != token) =
      (seen.tokensAt name).filter (· != token)

namespace Zone

variable {z seen : Zone} {token : String}

/-- A batch is refused or every change of it is made. -/
theorem apply_cases (z : Zone) (batch : Batch) :
    (z.apply batch).2 = z ∨
      (z.fault? batch = none ∧ (z.apply batch).2 =
        { z with records := batch.foldl change z.records, batches := z.batches ++ [batch] }) := by
  unfold apply
  cases z.fault? batch with
  | none => exact Or.inr ⟨rfl, rfl⟩
  | some fault => exact Or.inl rfl

theorem apply_of_no_fault {batch : Batch} (h : z.fault? batch = none) : (z.apply batch).2 =
    { z with records := batch.foldl change z.records, batches := z.batches ++ [batch] } := by
  rw [apply, h]

/-- A batch leaves what it does not speak of. -/
theorem get?_foldl_change {name : String} (key : RecordSet.Key) (hkey : key.1 ≠ name) :
    ∀ (batch : Batch) (records : SortedMap RecordSet.Key RecordSet),
      (∀ c ∈ batch, c.record.name = name) →
        (batch.foldl change records).get? key = records.get? key
  | [], _, _ => rfl
  | c :: batch, records, h => by
    have hne : key ≠ c.record.key := fun heq =>
      hkey ((congrArg Prod.fst heq).trans (h c List.mem_cons_self))
    rw [List.foldl_cons, get?_foldl_change key hkey batch _ fun c' hc' =>
      h c' (List.mem_cons_of_mem c hc')]
    unfold change
    split
    · exact SortedMap.get?_insert_ne _ _ hne
    · exact SortedMap.get?_erase_ne _ hne

theorem tokensAt_congr {z z' : Zone} {name : String}
    (h : z'.records.get? (name, .txt) = z.records.get? (name, .txt)) :
    z'.tokensAt name = z.tokensAt name := by
  rw [tokensAt, tokensAt, h]

/-- A batch that ends with a text leaves the tokens of that text. -/
theorem tokensAt_apply {batch : Batch} {name : String} {tokens : List String}
    (h : z.fault? batch = none)
    (htext : (batch.foldl change z.records).get? (name, .txt) = some (.txt name tokens)) :
    (z.apply batch).2.tokensAt name = tokens := by
  rw [apply_of_no_fault h, tokensAt]
  dsimp only
  rw [htext]
  rfl

/-! ### Planning -/

theorem filter_addToken (token : String) (values : List String) :
    (addToken token values).filter (· != token) = values.filter (· != token) := by
  unfold addToken
  split
  · rfl
  · rw [List.filter_append]
    simp

/-- A batch that was planned for a claim. -/
theorem planned_claim (h : seen.Filed) {target : String} {entry : AliasEntry} {batch : Batch}
    (hplan : planUpsert (seen.recordsAt entry.domain) target entry token = .ok batch) :
    Planned token entry.domain seen batch := by
  have hforeign : ¬ Foreign token (seen.recordsAt entry.domain) := by
    intro hforeign
    obtain ⟨cause, hcause⟩ := (foreign_iff h _ _).1 hforeign
    rw [planUpsert, hcause] at hplan
    cases hplan
  have hbatch : batch = claimBatch (seen.recordsAt entry.domain) target entry token
      (seen.tokensAt entry.domain) := by
    unfold planUpsert at hplan
    cases hclaim : Claim.of (seen.recordsAt entry.domain) entry.domain token with
    | foreign cause => exact absurd ((foreign_iff h _ _).2 ⟨cause, hclaim⟩) hforeign
    | free =>
      rw [hclaim] at hplan
      cases hplan
      rw [tokensAt_of_free h hclaim]
    | ours text =>
      rw [hclaim] at hplan
      cases hplan
      rw [(tokensAt_of_ours h hclaim).2]
  subst hbatch
  refine ⟨hforeign, fun c hc => (mem_claimBatch h hc).1, fun z hz => ?_⟩
  -- The last change writes the text.
  have htext : ((claimBatch (seen.recordsAt entry.domain) target entry token
      (seen.tokensAt entry.domain)).foldl change z.records).get? (entry.domain, .txt) =
        some (.txt entry.domain (addToken token (seen.tokensAt entry.domain))) := by
    rw [claimBatch, List.foldl_append]
    exact SortedMap.get?_insert_self _ _ _
  rw [tokensAt_apply hz htext, filter_addToken]

/-- A batch that was planned for a release. -/
theorem planned_release (h : seen.Filed) {entry : AliasEntry} {batch : Batch}
    (hplan : planDelete (seen.recordsAt entry.domain) entry token = .release batch)
    (hne : batch ≠ []) : Planned token entry.domain seen batch := by
  unfold planDelete at hplan
  cases hclaim : Claim.of (seen.recordsAt entry.domain) entry.domain token with
  | foreign cause =>
    rw [hclaim] at hplan
    cases hplan
  | free =>
    rw [hclaim] at hplan
    cases hplan
    exact absurd rfl hne
  | ours text =>
    obtain ⟨htext, htokens⟩ := tokensAt_of_ours h hclaim
    rw [hclaim] at hplan
    have hbatch : batch = releaseBatch (seen.recordsAt entry.domain) entry token text := by
      cases hplan
      rfl
    subst hbatch
    refine ⟨?_, fun c hc => (mem_releaseBatch h htext hc).1, fun z hz => ?_⟩
    · intro hforeign
      obtain ⟨cause, hcause⟩ := (foreign_iff h _ _).1 hforeign
      rw [hclaim] at hcause
      cases hcause
    · -- The last change takes the token out of the text.
      obtain ⟨hname, htype⟩ := type_of_get? h htext
      have hlast : ((releaseBatch (seen.recordsAt entry.domain) entry token text).foldl change
          z.records).get? (entry.domain, .txt) =
            (withdrawn entry.domain token text.values).head? := by
        rw [releaseBatch, List.foldl_append]
        show (change _ (withdrawToken entry.domain token text)).get? (entry.domain, .txt) = _
        rw [get?_withdrawn (Prod.ext hname htype), if_pos rfl]
      rw [apply_of_no_fault hz, tokensAt]
      dsimp only
      rw [hlast, htokens, withdrawn]
      cases hothers : text.values.filter (· != token) with
      | nil => rfl
      | cons v others =>
        show (v :: others).filter (· != token) = v :: others
        rw [← hothers, List.filter_filter]
        simp

/-- A batch is submitted by one call, and by none if it is empty. -/
theorem submit_cases (batch : Batch) :
    (batch = [] ∧ AliasProtocol.submit batch = .done (.ok ())) ∨
      (batch ≠ [] ∧ AliasProtocol.submit batch = .ask (.applyBatch batch) .done) := by
  cases batch with
  | nil => exact Or.inl ⟨rfl, rfl⟩
  | cons c rest => exact Or.inr ⟨List.cons_ne_nil c rest, rfl⟩

/-- **A task lists its name**, and then it is done or submits one batch. -/
theorem after_listing (h : seen.Filed) (token : String) (task : AliasTask) :
    ∃ next, task.program token = .ask (.listRecords task.name) next ∧
      ((∃ outcome, next (.ok (seen.recordsAt task.name)) = .done outcome) ∨
        ∃ batch, Planned token task.name seen batch ∧
          next (.ok (seen.recordsAt task.name)) = .ask (.applyBatch batch) .done) := by
  cases task with
  | claim target entry =>
    refine ⟨_, rfl, ?_⟩
    dsimp only [AliasTask.name, Program.andThen]
    cases hplan : planUpsert (seen.recordsAt entry.domain) target entry token with
    | error cause => exact Or.inl ⟨_, rfl⟩
    | ok batch =>
      rcases submit_cases batch with ⟨-, hsubmit⟩ | ⟨-, hsubmit⟩
      · exact Or.inl ⟨_, hsubmit⟩
      · exact Or.inr ⟨batch, planned_claim h hplan, hsubmit⟩
  | release entry =>
    refine ⟨_, rfl, ?_⟩
    dsimp only [AliasTask.name, Program.andThen]
    cases hplan : planDelete (seen.recordsAt entry.domain) entry token with
    | notOwned cause => exact Or.inl ⟨_, rfl⟩
    | release batch =>
      rcases submit_cases batch with ⟨-, hsubmit⟩ | ⟨hne, hsubmit⟩
      · exact Or.inl ⟨_, hsubmit⟩
      · exact Or.inr ⟨batch, planned_release h hplan hne, hsubmit⟩

end Zone

/-! ## One step of an owner -/

/-- What a step of an owner does to the zone, given the zone it met with its
call before: of the tokens of others at a name it leaves those that stand
there or those that were seen, and what was seen in other hands it leaves
alone. -/
structure OwnStep (token : String) (seen before after : Zone) : Prop where
  filed : after.Filed
  others : ∀ name, (after.tokensAt name).filter (· != token) =
      (before.tokensAt name).filter (· != token) ∨
    (after.tokensAt name).filter (· != token) = (seen.tokensAt name).filter (· != token)
  foreign : ∀ name, Zone.Foreign token (seen.recordsAt name) →
    after.recordsAt name = before.recordsAt name

theorem OwnStep.refl {token : String} {seen z : Zone} (h : z.Filed) : OwnStep token seen z z :=
  ⟨h, fun _ => Or.inl rfl, fun _ _ => rfl⟩

/-- **A planned batch is a step of its owner**, whatever was written since the
listing. -/
theorem Planned.ownStep {token name : String} {seen z : Zone} {batch : Batch}
    (h : Planned token name seen batch) (hz : z.Filed) :
    OwnStep token seen z (z.apply batch).2 := by
  rcases z.apply_cases batch with hsame | ⟨hfault, happlied⟩
  · rw [hsame]
    exact .refl hz
  · have hfiled : (z.apply batch).2.Filed := by
      rw [happlied]
      exact Zone.filed_foldl_change batch hz
    have helsewhere : ∀ other type, other ≠ name →
        (z.apply batch).2.records.get? (other, type) = z.records.get? (other, type) := by
      intro other type hne
      rw [happlied]
      exact Zone.get?_foldl_change (other, type) hne batch z.records h.names
    refine ⟨hfiled, fun other => ?_, fun other hforeign => ?_⟩
    · by_cases hother : other = name
      · subst hother
        exact Or.inr (h.tokens z hfault)
      · exact Or.inl (congrArg _ (Zone.tokensAt_congr (helsewhere other .txt hother)))
    · have hother : other ≠ name := by
        rintro rfl
        exact h.ours hforeign
      rw [Zone.recordsAt_eq hz, Zone.recordsAt_eq hfiled]
      congr 1
      funext type
      exact helsewhere other type hother

/-- Where an owner stands that met some zone with its last call: it has work
left, or first a batch that was planned from that zone. -/
inductive Stage (token : String) (seen : Zone) : Program Unit → Prop
  | resting (tasks : List AliasTask) : Stage token seen (AliasTask.work token tasks)
  | pending {name : String} {batch : Batch} (planned : Planned token name seen batch)
      (rest : List AliasTask) :
      Stage token seen (.ask (.applyBatch batch) fun _ => AliasTask.work token rest)

/-- **One call of an owner**: a step of its own, after which it stands where
its call has met the zone. -/
theorem Stage.step {token : String} {seen : Zone} {p : Program Unit} (h : Stage token seen p)
    {w : World} (hw : w.zone.Filed) :
    OwnStep token seen w.zone (p.step w).2.zone ∧ Stage token w.zone (p.step w).1 := by
  cases h with
  | pending planned rest => exact ⟨planned.ownStep hw, .resting rest⟩
  | resting tasks =>
    cases tasks with
    | nil => exact ⟨.refl hw, .resting []⟩
    | cons task rest =>
      obtain ⟨next, hprogram, hnext⟩ := Zone.after_listing hw token task
      have hwork : AliasTask.work token (task :: rest) =
          .ask (.listRecords task.name) fun answer =>
            (next answer).andThen fun _ => AliasTask.work token rest := by
        show (task.program token).andThen (fun _ => AliasTask.work token rest) = _
        rw [hprogram]
        rfl
      rw [hwork]
      refine ⟨.refl hw, ?_⟩
      show Stage token w.zone ((next (.ok (w.zone.recordsAt task.name))).andThen _)
      rcases hnext with ⟨outcome, hdone⟩ | ⟨batch, hplanned, hask⟩
      · rw [hdone]
        exact .resting rest
      · rw [hask]
        exact .pending hplanned rest

/-! ## Two owners -/

/-- The calls of a schedule before the last one of a side; none if it makes
none. -/
def Side.beforeLast (side : Side) (schedule : List Side) : List Side :=
  ((schedule.reverse.dropWhile (· != side)).drop 1).reverse

namespace Race

/-- Two owners at the start of their work. -/
def owners (w : World) (token : Side → String) (tasks : Side → List AliasTask) : Race Unit Unit :=
  ⟨w, AliasTask.work (token .left) (tasks .left), AliasTask.work (token .right) (tasks .right)⟩

/-- The procedure of a side. -/
def procedure {α : Type} (r : Race α α) : Side → Program α
  | .left => r.left
  | .right => r.right

section

variable {α : Type} (r : Race α α) (side other : Side)

theorem step_world : (r.step side).world = ((r.procedure side).step r.world).2 := by
  cases side <;> rfl

theorem step_procedure_self :
    (r.step side).procedure side = ((r.procedure side).step r.world).1 := by
  cases side <;> rfl

theorem step_procedure_ne (h : other ≠ side) :
    (r.step side).procedure other = r.procedure other := by
  cases side with
  | left =>
    cases other with
    | left => exact absurd rfl h
    | right => rfl
  | right =>
    cases other with
    | left => rfl
    | right => exact absurd rfl h

theorem run_append_step (schedule : List Side) :
    r.run (schedule ++ [side]) = (r.run schedule).step side := by
  rw [run, List.foldl_append]
  rfl

/-- The zone as a side met it with the last call it made; at the start if it
has made none. -/
def seenBy (schedule : List Side) : Zone := (r.run (side.beforeLast schedule)).world.zone

theorem seenBy_append_self (schedule : List Side) :
    r.seenBy side (schedule ++ [side]) = (r.run schedule).world.zone := by
  have hlast : side.beforeLast (schedule ++ [side]) = schedule := by
    simp [Side.beforeLast]
  rw [seenBy, hlast]

theorem seenBy_append_ne (h : other ≠ side) (schedule : List Side) :
    r.seenBy other (schedule ++ [side]) = r.seenBy other schedule := by
  have hlast : other.beforeLast (schedule ++ [side]) = other.beforeLast schedule := by
    simp [Side.beforeLast, Ne.symm h]
  rw [seenBy, seenBy, hlast]

end

end Race

/-- The tokens at a name that are neither owner's. -/
def Zone.outsidersAt (token : Side → String) (z : Zone) (name : String) : List String :=
  (z.tokensAt name).filter fun value => value != token .left && value != token .right

/-- Outsiders are among the tokens that are not one owner's own. -/
theorem Zone.outsidersAt_congr {token : Side → String} {z z' : Zone} {name : String} (side : Side)
    (h : (z'.tokensAt name).filter (· != token side) = (z.tokensAt name).filter (· != token side)) :
    z'.outsidersAt token name = z.outsidersAt token name := by
  have hsub : ∀ values : List String,
      values.filter (fun value => value != token .left && value != token .right) =
        (values.filter (· != token side)).filter fun value =>
          value != token .left && value != token .right := by
    intro values
    rw [List.filter_filter]
    refine List.filter_congr fun value _ => ?_
    cases side <;> cases value != token .left <;> cases value != token .right <;> rfl
  rw [outsidersAt, outsidersAt, hsub, h, ← hsub]

namespace Race

/-- **What two owners under way keep up**: both stand where their last calls
have put them, and wherever one of them looks, the tokens of outsiders are
those of the start. -/
structure Underway (token : Side → String) (start : Zone) (r : Race Unit Unit)
    (seen : Side → Zone) : Prop where
  filed : r.world.zone.Filed
  outsiders : ∀ name, r.world.zone.outsidersAt token name = start.outsidersAt token name
  seenOutsiders : ∀ side name, (seen side).outsidersAt token name = start.outsidersAt token name
  stage : ∀ side, Stage (token side) (seen side) (r.procedure side)

variable {token : Side → String} {start : Zone} {r : Race Unit Unit} {seen : Side → Zone}

/-- What the next call of a side does to the zone. -/
theorem Underway.ownStep (h : r.Underway token start seen) (side : Side) :
    OwnStep (token side) (seen side) r.world.zone (r.step side).world.zone := by
  rw [step_world]
  exact ((h.stage side).step h.filed).1

/-- A step of an owner keeps the outsiders, whatever it meets. -/
theorem Underway.outsiders_step (h : r.Underway token start seen) (side : Side) (name : String) :
    (r.step side).world.zone.outsidersAt token name = start.outsidersAt token name := by
  rcases (h.ownStep side).others name with hsame | hseen
  · exact (Zone.outsidersAt_congr side hsame).trans (h.outsiders name)
  · exact (Zone.outsidersAt_congr side hseen).trans (h.seenOutsiders side name)

theorem Underway.step (h : r.Underway token start seen) (side : Side) {seen' : Side → Zone}
    (hself : seen' side = r.world.zone) (hother : ∀ other, other ≠ side → seen' other = seen other) :
    (r.step side).Underway token start seen' where
  filed := (h.ownStep side).filed
  outsiders := h.outsiders_step side
  seenOutsiders := by
    intro other name
    by_cases hs : other = side
    · rw [hs, hself]
      exact h.outsiders name
    · rw [hother other hs]
      exact h.seenOutsiders other name
  stage := by
    intro other
    by_cases hs : other = side
    · rw [hs, hself, step_procedure_self]
      exact ((h.stage side).step h.filed).2
    · rw [hother other hs, step_procedure_ne r side other hs]
      exact h.stage other

/-- Two owners are under way after every schedule. -/
theorem underway (w : World) (h : w.zone.Filed) (token : Side → String)
    (tasks : Side → List AliasTask) (schedule : List Side) :
    ((owners w token tasks).run schedule).Underway token w.zone
      fun side => (owners w token tasks).seenBy side schedule := by
  -- From the last call backwards: what a side has seen is told by its last call.
  induction schedule using List.reverseRecOn with
  | nil =>
    refine ⟨h, fun _ => rfl, fun _ _ => rfl, fun side => ?_⟩
    cases side
    · exact .resting _
    · exact .resting _
  | append_singleton schedule last ih =>
    rw [run_append_step]
    exact ih.step last (seenBy_append_self _ last schedule) fun other hne =>
      seenBy_append_ne _ last other hne schedule

/-- What a step of an owner keeps at a name, given the zone that the owner met
with its call before: tokens of others that stood there then and now, and
every record if the name was in other hands. -/
structure Respects (token name : String) (seen before after : Zone) : Prop where
  tokens : ∀ value ∈ before.tokensAt name, value ∈ seen.tokensAt name → value ≠ token →
    value ∈ after.tokensAt name
  records : Zone.Foreign token (seen.recordsAt name) →
    after.recordsAt name = before.recordsAt name

/-- **Two owners respect what they have seen of each other.** Whatever they have
to do and however their calls interleave, a step of one never takes away a
token of somebody else that stood at the name when it looked, and changes no
record at a name that it saw in other hands. The tokens of outsiders are never
touched at all. -/
theorem owners_respect_each_other (w : World) (h : w.zone.Filed) (token : Side → String)
    (tasks : Side → List AliasTask) (schedule : List Side) (side : Side) (name : String) :
    let r := (owners w token tasks).run schedule
    Respects (token side) name ((owners w token tasks).seenBy side schedule) r.world.zone
        (r.step side).world.zone ∧
      (r.step side).world.zone.outsidersAt token name = r.world.zone.outsidersAt token name := by
  intro r
  have hunder := underway w h token tasks schedule
  have hown := hunder.ownStep side
  refine ⟨⟨?_, hown.foreign name⟩, ?_⟩
  · intro value hbefore hseen hother
    have hne : (value != token side) = true := by simpa using hother
    rcases hown.others name with hsame | hsame
    · exact (List.mem_filter.1 (hsame ▸ List.mem_filter.2 ⟨hbefore, hne⟩)).1
    · exact (List.mem_filter.1 (hsame ▸ List.mem_filter.2 ⟨hseen, hne⟩)).1
  · rw [hunder.outsiders_step side name]
    exact (hunder.outsiders name).symm

/-! ## Two owners of the blog -/

/-- One token for each side. -/
def tokenOf : Side → String
  | .left => "ours"
  | .right => "theirs"

/-- Each side wants the name of the blog to point at its own distribution. -/
def blogTasks : Side → List AliasTask
  | .left => [.claim "d1.cdn.example.net" (.forDomain "blog.example.com" false)]
  | .right => [.claim "d2.cdn.example.net" (.forDomain "blog.example.com" false)]

/-- Both have a token at the name of the blog beside that of an archive, and the
left side submits its batch after the right one has claimed the name again. -/
theorem owners_respect_each_other_blog :
    let w := World.seeded [] [.txt "blog.example.com" ["archive", "theirs", "ours"]]
    let r := (owners w tokenOf blogTasks).run [.left, .right, .right]
    w.zone.Filed ∧ "theirs" ∈ r.world.zone.tokensAt "blog.example.com" ∧
      (r.step .left).world.zone.batches ≠ r.world.zone.batches ∧
      Respects "ours" "blog.example.com"
        ((owners w tokenOf blogTasks).seenBy .left [.left, .right, .right]) r.world.zone
        (r.step .left).world.zone ∧
      (r.step .left).world.zone.outsidersAt tokenOf "blog.example.com" =
        r.world.zone.outsidersAt tokenOf "blog.example.com" := by
  intro w r
  have hfiled : w.zone.Filed := World.filed_seed _ Zone.filed_empty
  exact ⟨hfiled, by decide +kernel, by decide +kernel,
    owners_respect_each_other w hfiled tokenOf blogTasks [.left, .right, .right] .left
      "blog.example.com"⟩

/-- **What was written since the listing is not protected.** Both sides find the
name of the blog free. The right one claims it, and then the left one submits
the batch it had planned: the token of the right side is gone, and the name
points elsewhere, though its text held that token and not the other. -/
theorem fresh_token_erased :
    let r := (owners (.initial []) tokenOf blogTasks).run [.left, .right, .right]
    r.world.zone.recordsAt "blog.example.com" =
        Zone.aliasRecords "blog.example.com" "d2.cdn.example.net" false "theirs" ∧
      (r.step .left).world.zone.recordsAt "blog.example.com" =
        Zone.aliasRecords "blog.example.com" "d1.cdn.example.net" false "ours" := by
  decide +kernel

end Race

end RouteConvergence
