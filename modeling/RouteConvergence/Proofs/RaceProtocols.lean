/-
RouteConvergence.Proofs.RaceProtocols — what racing cycles of a group agree
on.

A group with members and one without behave differently, and the
descriptors decide which for all cycles of a race alike.

* `Cycle.providing` — the group has members. A distribution, once there, is
  never missing again, and a record is never dropped. Every identity that is
  found or written is one of the group's own numbers: the one it had, or, if
  it had none, one given out during the race (`World.OwnNumber`). Which of
  these is stored and which is on record is not agreed on.
* `Cycle.vacating` — the group has no members. Nothing is created, and what
  was deleted stays deleted.
-/
import RouteConvergence.Proofs.GuardedCycle

namespace RouteConvergence

namespace DistributionStore

/-- An identity has one number. -/
theorem number_unique {identity : Option Identity} {m n : Nat}
    (hm : identity = some (identityOf m)) (hn : identity = some (identityOf n)) : m = n := by
  rw [hm] at hn
  exact identityOf_inj (congrArg Identity.id (Option.some.inj hn))

/-- The number of a stored distribution was given out. -/
theorem Numbered.le_issued {s : DistributionStore} (h : s.Numbered) {group : GroupName} {n : Nat}
    (hstored : s.identityAt group = some (identityOf n)) : n ≤ s.issued := by
  obtain ⟨k, hk, hid⟩ := h.identityAt_eq_some hstored
  rw [identityOf_inj (congrArg Identity.id hid)]
  exact hk

/-- A number that no group has is not found. -/
theorem Numbered.findIdentity_eq_none {s : DistributionStore} (h : s.Numbered) {n : Nat}
    (hlost : ∀ group, s.identityAt group ≠ some (identityOf n)) :
    s.findIdentity (identityOf n).id = none := by
  have hnone : (s.models.values.find? fun m => m.identity.map (·.id) == some (identityOf n).id) =
      none := by
    refine List.find?_eq_none.2 fun m hm hid => ?_
    obtain ⟨group, hgroup⟩ := (SortedMap.mem_values _ _).1 hm
    obtain ⟨k, -, hk⟩ := h.given group m hgroup
    simp only [hk, Option.map_some, beq_iff_eq, Option.some.injEq] at hid
    refine hlost group ?_
    rw [identityAt, hgroup, Option.bind_some, hk, identityOf_inj hid]
  unfold DistributionStore.findIdentity
  rw [hnone]
  rfl

/-- **A lost distribution cannot be updated.** -/
theorem Numbered.update_lost {s : DistributionStore} (h : s.Numbered) (hcalls : s.failing = [])
    {model : Model} {requested : Identity} {n : Nat} (hrequested : model.identity = some requested)
    (hid : requested.id = (identityOf n).id)
    (hlost : ∀ group, s.identityAt group ≠ some (identityOf n)) :
    s.update model = (.error (.backend (.distributionMissing requested.id)),
      s.logged .update model.group) := by
  have hfails : Operation.update ∉ (s.logged .update model.group).failing := by
    show Operation.update ∉ s.failing
    rw [hcalls]
    exact List.not_mem_nil
  have hfind : (s.logged .update model.group).findIdentity requested.id = none := by
    rw [hid]
    exact h.findIdentity_eq_none hlost
  unfold update
  dsimp only
  rw [if_neg hfails, hrequested]
  dsimp only
  rw [hfind]

/-- A group with members whose distribution is lost does not get another one. -/
theorem Numbered.sync_lost {s : DistributionStore} (h : s.Numbered) (settings : Settings)
    (hcalls : s.failing = []) {model : Model} {requested : Identity} {n : Nat}
    (hempty : model.isEmpty = false) (hrequested : model.identity = some requested)
    (hid : requested.id = (identityOf n).id)
    (hlost : ∀ group, s.identityAt group ≠ some (identityOf n)) :
    s.sync settings model =
      (⟨some requested, some (.backend (.distributionMissing requested.id))⟩,
        s.logged .update model.group) := by
  unfold sync Model.hasIdentity
  rw [hempty, hrequested, h.update_lost hcalls hrequested hid hlost]
  rfl

/-- Of a group without members the distribution is deleted, if one was found and
that is allowed. -/
theorem sync_vacant {s : DistributionStore} {model : Model} (hempty : model.isEmpty = true)
    (settings : Settings) (hcalls : s.failing = []) :
    s.sync settings model =
      if model.identity.isSome && settings.deletion then
        (⟨none, none⟩, { s.logged .delete model.group with models := s.models.erase model.group })
      else (⟨model.identity, none⟩, s) := by
  have hdelete : s.delete model =
      (.ok (), { s.logged .delete model.group with models := s.models.erase model.group }) := by
    rw [delete_eq, if_neg (by rw [hcalls]; exact List.not_mem_nil)]
  unfold sync Model.hasIdentity
  rw [if_pos hempty, hdelete]
  cases model.identity <;> cases settings.deletion <;> rfl

end DistributionStore

/-- The record of a group with members is written, or else it was there when it
should have been new, or not there when it should not. -/
theorem StatusStore.persist_provided {model : Model} (hempty : model.isEmpty = false)
    (s : StatusStore) (settings : Settings) (status : StatusRecord) (isNew clean : Bool) :
    (persist s settings model status isNew clean).2 = s.insert status.group status ∨
      ((persist s settings model status isNew clean).2 = s ∧
        s.contains status.group = isNew) := by
  unfold persist create update
  rw [hempty, Bool.and_false, Bool.false_and, if_neg Bool.false_ne_true]
  cases isNew <;> cases s.contains status.group <;> simp

/-- After a clean cycle of a group without members, the record that was found is
dropped if the distribution could be deleted. Else a record is written, unless
there is one by then. -/
theorem StatusStore.persist_vacant {model : Model} (hempty : model.isEmpty = true)
    (s : StatusStore) (settings : Settings) (status : StatusRecord) (isNew : Bool) :
    ((settings.deletion = true → isNew = true) ∧
        (persist s settings model status isNew true).2 = s) ∨
      (settings.deletion = true ∧
        (persist s settings model status isNew true).2 = s.erase status.group) ∨
      (settings.deletion = false ∧
        (persist s settings model status isNew true).2 = s.insert status.group status) := by
  unfold persist create update
  rw [hempty, Bool.true_and, Bool.true_and]
  cases settings.deletion <;> cases isNew <;> cases s.contains status.group <;> simp

namespace World

variable {group : GroupName} {start w w' : World}

/-- The stores of distributions and records of a group may change. -/
theorem Beside.written (h : Beside group start w) {distributions : DistributionStore}
    {statuses : StatusStore} (hnumbered : distributions.Numbered)
    (hfailing : distributions.failing = w.distributions.failing)
    (hmodels : ∀ other, other ≠ group →
      distributions.models.get? other = w.distributions.models.get? other)
    (hfiled : statuses.FiledBy (·.group))
    (hrecords : ∀ other, other ≠ group → statuses.get? other = w.statuses.get? other) :
    Beside group start { w with distributions, statuses } :=
  { h with
    failing := hfailing.trans h.failing
    numbered := hnumbered
    models := fun other hother => (hmodels other hother).trans (h.models other hother)
    statuses := hfiled
    records := fun other hother => (hrecords other hother).trans (h.records other hother) }

theorem Beside.placed (h : Beside group start w) {distributions : DistributionStore}
    (hnumbered : distributions.Numbered)
    (hfailing : distributions.failing = w.distributions.failing) {model : Model}
    (hmodels : distributions.models = w.distributions.models.insert group model) :
    Beside group start { w with distributions } :=
  h.written hnumbered hfailing
    (fun other hother => by rw [hmodels, SortedMap.get?_insert_ne _ _ hother]) h.statuses
    fun _ _ => rfl

theorem Beside.recorded (h : Beside group start w) {status : StatusRecord}
    (hgroup : status.group = group) :
    Beside group start { w with statuses := w.statuses.insert group status } :=
  h.written h.numbered rfl (fun _ _ => rfl) (h.statuses.insert hgroup)
    fun _ hother => SortedMap.get?_insert_ne _ _ hother

/-- The identity of a group's distribution. -/
abbrev identityAt (w : World) (group : GroupName) : Option Identity :=
  w.distributions.identityAt group

/-! ## A group with members -/

/-- The numbers that can be the group's in a race: the one it had, or, if it had
none, one given out since. -/
def OwnNumber (group : GroupName) (start w : World) (n : Nat) : Prop :=
  start.identityAt group = some (DistributionStore.identityOf n) ∨
    (start.identityAt group = none ∧ start.distributions.issued < n ∧ n ≤ w.distributions.issued)

/-- A record that tells one of the group's own numbers. -/
def Identified (group : GroupName) (start w : World) (status : StatusRecord) : Prop :=
  ∃ n, OwnNumber group start w n ∧ status.Names (some (DistributionStore.identityOf n))

theorem OwnNumber.mono {n : Nat} (h : OwnNumber group start w n)
    (hissued : w.distributions.issued ≤ w'.distributions.issued) : OwnNumber group start w' n :=
  h.imp id fun h => ⟨h.1, h.2.1, Nat.le_trans h.2.2 hissued⟩

theorem Identified.mono {status : StatusRecord} (h : Identified group start w status)
    (hissued : w.distributions.issued ≤ w'.distributions.issued) :
    Identified group start w' status := by
  obtain ⟨n, hn, hnames⟩ := h
  exact ⟨n, hn.mono hissued, hnames⟩

/-- The group's own numbers are no other group's. -/
theorem OwnNumber.not_elsewhere {n : Nat} (h : OwnNumber group start w n)
    (hstart : start.distributions.Numbered) (hbeside : Beside group start w) {other : GroupName}
    (hother : other ≠ group) : w.identityAt other ≠ some (DistributionStore.identityOf n) := by
  intro hstored
  rw [identityAt, DistributionStore.identityAt, hbeside.models other hother] at hstored
  rcases h with hhad | ⟨-, hlate, -⟩
  · exact hother (hstart.distinct other group n hstored hhad)
  · exact Nat.not_lt.2 (hstart.le_issued hstored) hlate

/-- What holds of every world that cycles of a group with members lead to. -/
structure Providing (group : GroupName) (start w : World) : Prop where
  beside : Beside group start w
  issued : start.distributions.issued ≤ w.distributions.issued
  stored : (∃ n, OwnNumber group start w n ∧
      w.identityAt group = some (DistributionStore.identityOf n)) ∨
    (w.identityAt group = none ∧ start.identityAt group = none ∧
      w.distributions.issued = start.distributions.issued)
  recorded : ∀ status, w.statuses.get? group = some status →
    status.identity = none ∨ Identified group start w status

/-- The changes that cycles of a group with members allow each other. -/
structure Provides (group : GroupName) (start w w' : World) : Prop where
  after : Providing group start w'
  issued : w.distributions.issued ≤ w'.distributions.issued
  kept : (w.statuses.get? group).isSome = true → (w'.statuses.get? group).isSome = true
  /-- A record that appears or changes is identified. -/
  written : ∀ status, w'.statuses.get? group = some status →
    Identified group start w' status ∨ w.statuses.get? group = some status

theorem Providing.provides (h : Providing group start w) : Provides group start w w :=
  ⟨h, Nat.le_refl _, id, fun _ hstatus => Or.inr hstatus⟩

theorem Provides.trans {w'' : World} (h : Provides group start w w')
    (h' : Provides group start w' w'') : Provides group start w w'' where
  after := h'.after
  issued := Nat.le_trans h.issued h'.issued
  kept := fun hsome => h'.kept (h.kept hsome)
  written := by
    intro status hstatus
    rcases h'.written status hstatus with hid | hsame
    · exact Or.inl hid
    · exact (h.written status hsame).imp (·.mono h'.issued) id

/-- What a cycle knows of the record since it has read it. -/
structure Noted (group : GroupName) (start : World) (persisted : Option StatusRecord)
    (w : World) : Prop where
  there : persisted.isSome = true → (w.statuses.get? group).isSome = true
  new : persisted = none → ∀ status, w.statuses.get? group = some status →
    Identified group start w status

theorem Noted.kept {persisted : Option StatusRecord} (h : Noted group start persisted w)
    (hw : Provides group start w w') : Noted group start persisted w' where
  there := fun hsome => hw.kept (h.there hsome)
  new := by
    intro hnone status hstatus
    rcases hw.written status hstatus with hid | hsame
    · exact hid
    · exact (h.new hnone status hsame).mono hw.issued

/-- What a cycle has found is right from when it has read the record. -/
theorem Provides.noted (h : Provides group start w w') :
    Noted group start (w.statuses.get? group) w' where
  there := h.kept
  new := by
    intro hnone status hstatus
    rcases h.written status hstatus with hid | hsame
    · exact hid
    · rw [hnone] at hsame
      cases hsame

/-- An identity that is one of the group's own, or none if it had none. -/
def Known (group : GroupName) (start w : World) (identity : Option Identity) : Prop :=
  (identity = none ∧ start.identityAt group = none) ∨
    ∃ n, OwnNumber group start w n ∧
      Identity.Recalls identity (some (DistributionStore.identityOf n))

theorem Known.mono {identity : Option Identity} (h : Known group start w identity)
    (hissued : w.distributions.issued ≤ w'.distributions.issued) :
    Known group start w' identity :=
  h.imp id fun ⟨n, hn, hrecalls⟩ => ⟨n, hn.mono hissued, hrecalls⟩

/-- What is stored is known. -/
theorem Providing.known (h : Providing group start w) {identity : Option Identity}
    (hrecalls : Identity.Recalls identity (w.identityAt group)) :
    Known group start w identity := by
  rcases h.stored with ⟨n, hn, hstored⟩ | ⟨hnone, hstart, -⟩
  · rw [hstored] at hrecalls
    exact Or.inr ⟨n, hn, hrecalls⟩
  · rw [hnone] at hrecalls
    have hidentity : identity = none := by simpa using hrecalls.isSome
    exact Or.inl ⟨hidentity, hstart⟩

/-! ### The distribution -/

/-- A model is written under one of the group's own numbers. -/
theorem Providing.placed (h : Providing group start w) {distributions : DistributionStore}
    {model : Model} {n : Nat}
    (hmodels : distributions.models = w.distributions.models.insert group
      (model.withIdentity (some (DistributionStore.identityOf n))))
    (hfailing : distributions.failing = w.distributions.failing)
    (hissued : w.distributions.issued ≤ distributions.issued) (hn : n ≤ distributions.issued)
    (hfree : ∀ other, other ≠ group →
      w.identityAt other ≠ some (DistributionStore.identityOf n))
    (hown : OwnNumber group start { w with distributions } n) :
    Provides group start w { w with distributions } := by
  have hnumbered : distributions.Numbered :=
    h.beside.numbered.insert hmodels hissued hn rfl hfree
  refine ⟨⟨h.beside.placed hnumbered hfailing hmodels, Nat.le_trans h.issued hissued,
    Or.inl ⟨n, hown, ?_⟩, ?_⟩, hissued, id, fun _ hstatus => Or.inr hstatus⟩
  · exact DistributionStore.identityAt_insert_self hmodels
  · intro status hstatus
    rcases h.recorded status hstatus with hnone | hid
    · exact Or.inl hnone
    · exact Or.inr (hid.mono hissued)

/-- A call that fails is logged and changes nothing else. -/
theorem Providing.logged (h : Providing group start w) (operation : Operation) (name : GroupName) :
    Provides group start w { w with distributions := w.distributions.logged operation name } where
  after :=
    { beside := h.beside.written (h.beside.numbered.congr rfl rfl) rfl (fun _ _ => rfl)
        h.beside.statuses fun _ _ => rfl
      issued := h.issued
      stored := h.stored
      recorded := h.recorded }
  issued := Nat.le_refl _
  kept := id
  written := fun _ hstatus => Or.inr hstatus

/-- **The distribution step** of a group with members: it creates, updates or
finds its distribution lost, and reports one of the group's own numbers in any
case. -/
theorem Providing.sync (h : Providing group start w) (hstart : start.distributions.Numbered)
    (hcalls : w.distributions.failing = []) {settings : Settings} {model : Model}
    (hempty : model.isEmpty = false) (hgroup : model.group = group)
    (hknown : Known group start w model.identity) :
    Provides group start w
        { w with distributions := (w.distributions.sync settings model).2 } ∧
      ∃ n, OwnNumber group start
          { w with distributions := (w.distributions.sync settings model).2 } n ∧
        Identity.Recalls (w.distributions.sync settings model).1.identity
          (some (DistributionStore.identityOf n)) := by
  subst hgroup
  rcases hknown with ⟨hnone, habsent⟩ | ⟨n, hn, hrecalls⟩
  · -- Nothing was found, so a new number is given out.
    have hlate : start.distributions.issued < w.distributions.issued + 1 :=
      Nat.lt_succ_of_le h.issued
    unfold DistributionStore.sync Model.hasIdentity
    rw [hempty, hnone, if_neg Bool.false_ne_true, Option.isSome_none, if_neg Bool.false_ne_true,
      DistributionStore.create_eq, if_neg (by rw [hcalls]; exact List.not_mem_nil)]
    refine ⟨h.placed rfl rfl (Nat.le_succ _) (Nat.le_refl _) ?_ ?_, w.distributions.issued + 1, ?_,
      .refl _⟩
    · intro other _ hstored
      have hle := h.beside.numbered.le_issued hstored
      omega
    · exact Or.inr ⟨habsent, hlate, Nat.le_refl _⟩
    · exact Or.inr ⟨habsent, hlate, Nat.le_refl _⟩
  · obtain ⟨requested, hrequested⟩ : ∃ requested, model.identity = some requested :=
      Option.isSome_iff_exists.1 hrecalls.isSome
    have hid : requested.id = (DistributionStore.identityOf n).id := by
      have hids := hrecalls.id
      rw [hrequested] at hids
      exact Option.some.inj hids
    by_cases hstored : w.identityAt model.group = some (DistributionStore.identityOf n)
    · have hle := h.beside.numbered.le_issued hstored
      unfold DistributionStore.sync Model.hasIdentity
      rw [hempty, hrequested, if_neg Bool.false_ne_true, Option.isSome_some, if_pos rfl,
        h.beside.numbered.update_eq hrequested hstored hid,
        if_neg (by rw [hcalls]; exact List.not_mem_nil)]
      refine ⟨h.placed rfl rfl (Nat.le_refl _) hle ?_ hn, n, hn, .refl _⟩
      intro other hother hsame
      exact hother (h.beside.numbered.distinct other model.group n hsame hstored)
    · -- Another cycle has replaced what was found.
      have hlost : ∀ other, w.distributions.identityAt other ≠
          some (DistributionStore.identityOf n) := by
        intro other
        by_cases hother : other = model.group
        · rw [hother]
          exact hstored
        · exact hn.not_elsewhere hstart h.beside hother
      rw [h.beside.numbered.sync_lost settings hcalls hempty hrequested hid hlost]
      rw [hrequested] at hrecalls
      exact ⟨h.logged .update model.group, n, hn, hrecalls⟩

/-! ### The record -/

/-- A record of the group's own number is stored. -/
theorem Providing.recording (h : Providing group start w) {status : StatusRecord}
    (hgroup : status.group = group) (hid : Identified group start w status) :
    Provides group start w { w with statuses := w.statuses.insert group status } where
  after :=
    { beside := h.beside.recorded hgroup
      issued := h.issued
      stored := h.stored
      recorded := by
        intro other hother
        rcases SortedMap.get?_insert_eq_some hother with ⟨-, rfl⟩ | hold
        · exact Or.inr hid
        · exact h.recorded other hold }
  issued := Nat.le_refl _
  kept := fun _ => by
    show ((w.statuses.insert group status).get? group).isSome = true
    rw [SortedMap.get?_insert_self]
    rfl
  written := by
    intro other hother
    rcases SortedMap.get?_insert_eq_some hother with ⟨-, rfl⟩ | hold
    · exact Or.inl hid
    · exact Or.inr hold

/-- **Bookkeeping** of a group with members leaves a record of one of the
group's own numbers, its own or that of the cycle that was first. -/
theorem Providing.persist (h : Providing group start w) {settings : Settings} {model : Model}
    {persisted : Option StatusRecord} {status : StatusRecord} {clean : Bool}
    (hempty : model.isEmpty = false) (hnoted : Noted group start persisted w)
    (hgroup : status.group = group) (hid : Identified group start w status)
    {stored : StatusStore}
    (hstored : (StatusStore.persist w.statuses settings model status persisted.isNone clean).2 =
      stored) :
    Provides group start w { w with statuses := stored } ∧
      ∀ other, stored.get? group = some other →
        Identified group start { w with statuses := stored } other := by
  subst hgroup
  rcases StatusStore.persist_provided hempty w.statuses settings status persisted.isNone clean with
    hwritten | ⟨hsame, hmissed⟩
  · rw [hwritten] at hstored
    subst hstored
    refine ⟨h.recording rfl hid, fun other hother => ?_⟩
    rw [SortedMap.get?_insert_self] at hother
    cases hother
    exact hid
  · rw [hsame] at hstored
    subst hstored
    refine ⟨h.provides, hnoted.new ?_⟩
    cases persisted with
    | none => rfl
    | some found =>
      -- What was found cannot have gone.
      have hthere : (w.statuses.get? status.group).isSome = true := hnoted.there rfl
      rw [show w.statuses.contains status.group = true from hthere] at hmissed
      cases hmissed

/-! ## A group without members -/

/-- What holds of every world that cycles of a group without members lead to: its
distribution is the one it had, or was deleted. -/
structure Vacant (settings : Settings) (group : GroupName) (start w : World) : Prop where
  beside : Beside group start w
  stored : w.identityAt group = start.identityAt group ∨
    (settings.deletion = true ∧ w.identityAt group = none)
  recorded : ∀ status, w.statuses.get? group = some status →
    status.Names (start.identityAt group)

/-- The changes that cycles of a group without members allow each other. -/
structure Vacates (settings : Settings) (group : GroupName) (start w w' : World) : Prop where
  after : Vacant settings group start w'
  gone : w.identityAt group = none → w'.identityAt group = none
  dropped : settings.deletion = true → w.statuses.get? group = none →
    w'.statuses.get? group = none

variable {settings : Settings}

theorem Vacant.vacates (h : Vacant settings group start w) : Vacates settings group start w w :=
  ⟨h, id, fun _ => id⟩

theorem Vacates.trans {w'' : World} (h : Vacates settings group start w w')
    (h' : Vacates settings group start w' w'') : Vacates settings group start w w'' :=
  ⟨h'.after, fun hnone => h'.gone (h.gone hnone),
    fun hdeletion hnone => h'.dropped hdeletion (h.dropped hdeletion hnone)⟩

/-- What a cycle of a group without members has found: no record or distribution
that is missed can appear, and an identity is the one the group had. -/
structure Cleared (settings : Settings) (group : GroupName) (start : World)
    (persisted : Option StatusRecord) (identity : Option Identity) (w : World) : Prop where
  missed : settings.deletion = true → persisted = none → w.statuses.get? group = none
  gone : identity = none → w.identityAt group = none
  known : identity.isSome = true → Identity.Recalls identity (start.identityAt group)

theorem Cleared.kept {persisted : Option StatusRecord} {identity : Option Identity}
    (h : Cleared settings group start persisted identity w)
    (hw : Vacates settings group start w w') :
    Cleared settings group start persisted identity w' where
  missed := fun hdeletion hnone => hw.dropped hdeletion (h.missed hdeletion hnone)
  gone := fun hnone => hw.gone (h.gone hnone)
  known := h.known

/-- What is stored is what the group had. -/
theorem Vacant.recalled (h : Vacant settings group start w) {identity : Option Identity}
    (hrecalls : Identity.Recalls identity (w.identityAt group)) (hsome : identity.isSome = true) :
    Identity.Recalls identity (start.identityAt group) := by
  rcases h.stored with hsame | ⟨-, hnone⟩
  · rwa [hsame] at hrecalls
  · rw [hrecalls.isSome, hnone] at hsome
    cases hsome

/-- What a cycle of a group without members knows after its distribution step. -/
structure Vacated (settings : Settings) (group : GroupName) (start : World)
    (persisted : Option StatusRecord) (result : Cycle.DistributionSync) (w : World) : Prop where
  missed : settings.deletion = true → persisted = none → w.statuses.get? group = none
  sound : result.failure = none
  deleted : settings.deletion = true → w.identityAt group = none
  known : settings.deletion = false →
    Identity.Recalls result.identity (start.identityAt group)

theorem Vacated.kept {persisted : Option StatusRecord} {result : Cycle.DistributionSync}
    (h : Vacated settings group start persisted result w)
    (hw : Vacates settings group start w w') :
    Vacated settings group start persisted result w' where
  missed := fun hdeletion hnone => hw.dropped hdeletion (h.missed hdeletion hnone)
  sound := h.sound
  deleted := fun hdeletion => hw.gone (h.deleted hdeletion)
  known := h.known

/-- **The distribution step** of a group without members deletes what there is,
or leaves it if nothing may be deleted. -/
theorem Vacant.sync (h : Vacant settings group start w) (hcalls : w.distributions.failing = [])
    {model : Model} {persisted : Option StatusRecord} (hempty : model.isEmpty = true)
    (hgroup : model.group = group)
    (hfound : Cleared settings group start persisted model.identity w) :
    Vacates settings group start w
        { w with distributions := (w.distributions.sync settings model).2 } ∧
      Vacated settings group start persisted (w.distributions.sync settings model).1
        { w with distributions := (w.distributions.sync settings model).2 } := by
  subst hgroup
  rw [DistributionStore.sync_vacant hempty settings hcalls]
  split
  case isTrue hdelete =>
    have hdeletion : settings.deletion = true := (Bool.and_eq_true_iff.1 hdelete).2
    have hnone : ((w.distributions.models.erase model.group).get? model.group).bind
        (·.identity) = none := by
      rw [SortedMap.get?_erase_self]
      rfl
    have hbeside : Beside model.group start { w with
        distributions := { w.distributions.logged .delete model.group with
          models := w.distributions.models.erase model.group } } :=
      h.beside.written (h.beside.numbered.erase rfl rfl) rfl
        (fun _ hother => SortedMap.get?_erase_ne _ hother) h.beside.statuses fun _ _ => rfl
    refine ⟨⟨⟨hbeside, Or.inr ⟨hdeletion, hnone⟩, h.recorded⟩, fun _ => hnone, fun _ => id⟩,
      hfound.missed, rfl, fun _ => hnone, fun hkept => ?_⟩
    rw [hdeletion] at hkept
    cases hkept
  case isFalse hkeep =>
    -- Nothing was found, or nothing may be deleted.
    cases hidentity : model.identity with
    | none =>
      have hgone := hfound.gone hidentity
      refine ⟨h.vacates, hfound.missed, rfl, fun _ => hgone, fun hdeletion => ?_⟩
      rcases h.stored with hsame | ⟨hdeletion', -⟩
      · rw [← hsame, hgone]
        exact .refl none
      · rw [hdeletion] at hdeletion'
        cases hdeletion'
    | some identity =>
      rw [hidentity] at hfound hkeep
      refine ⟨h.vacates, hfound.missed, rfl, fun hdeletion => absurd ?_ hkeep,
        fun _ => hfound.known rfl⟩
      rw [hdeletion]
      rfl

/-- **Bookkeeping** of a group without members drops the record once its
distribution is deleted, and writes what the group had otherwise. -/
theorem Vacant.persist (h : Vacant settings group start w) {model : Model}
    {persisted : Option StatusRecord} {result : Cycle.DistributionSync} {status : StatusRecord}
    (hempty : model.isEmpty = true) (hsynced : Vacated settings group start persisted result w)
    (htells : status.Tells group result.identity) {stored : StatusStore}
    (hstored : (StatusStore.persist w.statuses settings model status persisted.isNone
      result.failure.isNone).2 = stored) :
    Vacates settings group start w { w with statuses := stored } ∧
      (settings.deletion = true → w.identityAt group = none ∧ stored.get? group = none) := by
  have hgroup := htells.group
  subst hgroup
  replace hstored : (StatusStore.persist w.statuses settings model status persisted.isNone
      true).2 = stored := by
    rw [← hstored, hsynced.sound]
    rfl
  rcases StatusStore.persist_vacant hempty w.statuses settings status persisted.isNone with
    ⟨hnew, hsame⟩ | ⟨hdeletion, herased⟩ | ⟨hdeletion, hwritten⟩
  · rw [hsame] at hstored
    subst hstored
    refine ⟨h.vacates, fun hdeletion => ⟨hsynced.deleted hdeletion, ?_⟩⟩
    exact hsynced.missed hdeletion (Option.isNone_iff_eq_none.1 (hnew hdeletion))
  · rw [herased] at hstored
    subst hstored
    have hnone := SortedMap.get?_erase_self w.statuses status.group
    have hbeside := h.beside.written h.beside.numbered rfl (fun _ _ => rfl)
      (h.beside.statuses.erase status.group) fun _ hother => SortedMap.get?_erase_ne _ hother
    refine ⟨⟨⟨hbeside, h.stored, fun other hother => ?_⟩, id, fun _ _ => hnone⟩,
      fun _ => ⟨hsynced.deleted hdeletion, hnone⟩⟩
    exact h.recorded other (SortedMap.get?_erase_eq_some hother).2
  · rw [hwritten] at hstored
    subst hstored
    have hkept : settings.deletion ≠ true := by
      rw [hdeletion]
      exact Bool.false_ne_true
    refine ⟨⟨⟨h.beside.recorded rfl, h.stored, fun other hother => ?_⟩, id,
      fun hyes => absurd hyes hkept⟩, fun hyes => absurd hyes hkept⟩
    rcases SortedMap.get?_insert_eq_some hother with ⟨-, rfl⟩ | hold
    · exact htells.names (hsynced.known hdeletion)
    · exact h.recorded other hold

end World

namespace Cycle

open World

variable {settings : Settings} {group : GroupName} {start : World}

/-- **The protocol of a group with members.** -/
def providing (hstart : start.Sound) (hcalls : start.distributions.failing = [])
    (hmembers : start.HasMembers group) : Protocol settings group start where
  allows := Provides group start
  found persisted identity w := Noted group start persisted w ∧ Known group start w identity
  synced persisted result w := Noted group start persisted w ∧
    ∃ n, OwnNumber group start w n ∧
      Identity.Recalls result.identity (some (DistributionStore.identityOf n))
  ended w := ∀ status, w.statuses.get? group = some status → Identified group start w status
  allowed := ⟨fun h => h.after.provides, fun h h' => h.trans h'⟩
  beside := fun h => h.after.beside
  found_kept := fun h hw => ⟨h.1.kept hw, h.2.mono hw.issued⟩
  synced_kept := by
    rintro persisted result w w' ⟨hnoted, n, hn, hrecalls⟩ hw
    exact ⟨hnoted.kept hw, n, hn.mono hw.issued, hrecalls⟩
  ended_kept := by
    intro w w' h hw status hstatus
    rcases hw.written status hstatus with hid | hsame
    · exact hid
    · exact (h status hsame).mono hw.issued
  aside := fun h hbeside =>
    ⟨⟨hbeside, h.after.issued, h.after.stored, h.after.recorded⟩, Nat.le_refl _, id,
      fun _ hstatus => Or.inr hstatus⟩
  recalled := by
    intro w identity h hidentity
    obtain ⟨status, hstatus, hsome⟩ := Option.bind_eq_some_iff.1 hidentity
    refine ⟨h.noted, Or.inr ?_⟩
    rcases h.after.recorded status hstatus with hnone | ⟨n, hn, hnames⟩
    · rw [hnone] at hsome
      cases hsome
    · rw [← hsome]
      exact ⟨n, hn, hnames.identity⟩
  lookedUp := fun _ hw _ hrecalls => ⟨hw.noted, hw.after.known hrecalls⟩
  distribution := by
    intro w persisted model h haims hfound
    have hempty : model.isEmpty = false := by
      rw [← Bool.not_eq_true]
      exact fun he => haims.isEmpty.1 he hmembers
    obtain ⟨hallowed, hown⟩ := h.after.sync hstart.distributions
      (h.after.beside.failing.trans hcalls) hempty haims.group hfound.2
    exact ⟨hallowed, hfound.1.kept hallowed, hown⟩
  bookkeeping := by
    rintro w persisted result status model h haims ⟨hnoted, n, hn, hrecalls⟩ htells
    have hempty : model.isEmpty = false := by
      rw [← Bool.not_eq_true]
      exact fun he => haims.isEmpty.1 he hmembers
    exact h.after.persist hempty hnoted htells.group ⟨n, hn, htells.names hrecalls⟩ rfl

/-- **The protocol of a group without members.** -/
def vacating (hcalls : start.distributions.failing = [])
    (hmembers : ¬ start.HasMembers group) : Protocol settings group start where
  allows := Vacates settings group start
  found := Cleared settings group start
  synced := Vacated settings group start
  ended w := settings.deletion = true → w.identityAt group = none ∧ w.statuses.get? group = none
  allowed := ⟨fun h => h.after.vacates, fun h h' => h.trans h'⟩
  beside := fun h => h.after.beside
  found_kept := fun h hw => h.kept hw
  synced_kept := fun h hw => h.kept hw
  ended_kept := fun h hw hdeletion =>
    ⟨hw.gone (h hdeletion).1, hw.dropped hdeletion (h hdeletion).2⟩
  aside := fun h hbeside => ⟨⟨hbeside, h.after.stored, h.after.recorded⟩, id, fun _ => id⟩
  recalled := by
    intro w identity h hidentity
    obtain ⟨status, hstatus, hsome⟩ := Option.bind_eq_some_iff.1 hidentity
    refine ⟨fun _ => id, fun hnone => (nomatch hnone), fun _ => ?_⟩
    rw [← hsome]
    exact (h.after.recorded status hstatus).identity
  lookedUp := by
    intro w w' identity _ hw _ hrecalls
    refine ⟨hw.dropped, fun hnone => ?_, hw.after.recalled hrecalls⟩
    have hsome := hrecalls.isSome
    rw [hnone] at hsome
    exact Option.not_isSome_iff_eq_none.1 (by rw [← hsome]; simp)
  distribution := fun h haims hfound =>
    h.after.sync (h.after.beside.failing.trans hcalls) (haims.isEmpty.2 hmembers) haims.group hfound
  bookkeeping := fun h haims hsynced htells =>
    h.after.persist (haims.isEmpty.2 hmembers) hsynced htells rfl

end Cycle

end RouteConvergence
