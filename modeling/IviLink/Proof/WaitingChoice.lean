import IviLink.Proof.WaitingStart

/-!
# Which waiting service the master takes

The master goes through its own list and then through the one that it has received, and keeps the
service with the least priority number so far. It looks every service up in its own repository
without asking whether it is there, and it begins with `UINT_MAX`, which no priority number that
is to be found may reach.
-/

namespace IviLink.ProfileManager.WaitingServices.WaitingServiceManager

/-- The repository has the service with this priority, and it is one that is started. -/
def Startable (repository : ServiceRepository) (it : Uid) (priority : UInt32) : Prop :=
  ∃ info, repository.getServiceInfo it = some info ∧ info.priority = priority ∧ priority ≠ 0

/-- What the master is to take from the services that are listed. Those that the repository does
not have are passed over. -/
structure Chooses (repository : ServiceRepository) (listed : List Uid) (service : Uid) :
    Prop where
  smallest : service ≠ [] → service ∈ listed ∧ ∃ priority, Startable repository service priority ∧
    ∀ it ∈ listed, ∀ priority', Startable repository it priority' → priority ≤ priority'
  nothing : service = [] → ∀ it ∈ listed, ∀ priority, ¬ Startable repository it priority

variable {repository : ServiceRepository}

theorem Startable.ne_nil {it : Uid} {priority : UInt32} (h : Startable repository it priority) :
    it ≠ [] := by
  obtain ⟨info, hinfo, -, -⟩ := h
  rintro rfl
  rw [repository.named] at hinfo
  cases hinfo

theorem Startable.unique {it : Uid} {priority priority' : UInt32}
    (h : Startable repository it priority) (h' : Startable repository it priority') :
    priority = priority' := by
  obtain ⟨info, hinfo, rfl, -⟩ := h
  obtain ⟨info', hinfo', rfl, -⟩ := h'
  rw [hinfo] at hinfo'
  rw [Option.some.inj hinfo']

/-! ## The loop -/

/-- What the loop keeps, after these services. -/
structure SmallestSoFar (repository : ServiceRepository) (passed : List Uid)
    (found : UInt32 × Uid) : Prop where
  le : ∀ it ∈ passed, ∀ priority, Startable repository it priority → found.1 ≤ priority
  source : found = (UINT_MAX, []) ∨
    found.2 ∈ passed ∧ Startable repository found.2 found.1 ∧ found.1 < UINT_MAX

theorem smallestSoFar_nil : SmallestSoFar repository [] (UINT_MAX, []) where
  le _ hit := nomatch hit
  source := Or.inl rfl

theorem le_UINT_MAX (priority : UInt32) : priority ≤ UINT_MAX := by
  rw [UInt32.le_iff_toNat_le]
  exact Nat.le_of_lt_succ priority.toNat_lt

/-- The service is taken. -/
theorem SmallestSoFar.take {passed : List Uid} {found : UInt32 × Uid} {it : Uid}
    {info : ServiceInfo} (h : SmallestSoFar repository passed found)
    (hinfo : repository.getServiceInfo it = some info)
    (hless : info.priority < found.1 ∧ 0 ≠ info.priority) :
    SmallestSoFar repository (passed ++ [it]) (info.priority, it) := by
  have hstart : Startable repository it info.priority := ⟨info, hinfo, rfl, hless.2.symm⟩
  refine ⟨?_, Or.inr ⟨?_, hstart, UInt32.lt_of_lt_of_le hless.1 (le_UINT_MAX _)⟩⟩
  · intro it' hit' priority hpriority
    rcases List.mem_append.mp hit' with hpassed | hsame
    · exact UInt32.le_trans (UInt32.le_of_lt hless.1) (h.le it' hpassed priority hpriority)
    · obtain rfl := List.mem_singleton.mp hsame
      exact UInt32.le_of_eq (hstart.unique hpriority)
  · exact List.mem_append_right _ (List.mem_singleton_self it)

/-- The service is passed over. -/
theorem SmallestSoFar.pass {passed : List Uid} {found : UInt32 × Uid} {it : Uid}
    {info : ServiceInfo} (h : SmallestSoFar repository passed found)
    (hinfo : repository.getServiceInfo it = some info)
    (hnot : ¬ (info.priority < found.1 ∧ 0 ≠ info.priority)) :
    SmallestSoFar repository (passed ++ [it]) found := by
  refine ⟨?_, ?_⟩
  · intro it' hit' priority hpriority
    rcases List.mem_append.mp hit' with hpassed | hsame
    · exact h.le it' hpassed priority hpriority
    · obtain rfl := List.mem_singleton.mp hsame
      obtain ⟨info', hinfo', rfl, hne⟩ := hpriority
      rw [hinfo] at hinfo'
      obtain rfl := Option.some.inj hinfo'
      exact UInt32.not_lt.mp fun hlt => hnot ⟨hlt, hne.symm⟩
  · rcases h.source with hfirst | ⟨hmem, hstart, hlt⟩
    · exact Or.inl hfirst
    · exact Or.inr ⟨List.mem_append_left _ hmem, hstart, hlt⟩

theorem SmallestSoFar.minService {services passed : List Uid} {found found' : UInt32 × Uid}
    (h : SmallestSoFar repository passed found)
    (hfound : minService repository services found = some found') :
    SmallestSoFar repository (passed ++ services) found' := by
  induction services generalizing passed found with
  | nil =>
    obtain rfl := Option.some.inj hfound
    rwa [List.append_nil]
  | cons it services ih =>
    obtain ⟨minPrio, service⟩ := found
    rw [WaitingServiceManager.minService] at hfound
    rw [List.append_cons]
    split at hfound
    · cases hfound
    · next info hinfo =>
      split at hfound
      · next hless => exact ih (h.take hinfo hless) hfound
      · next hnot => exact ih (h.pass hinfo hnot) hfound

/-- The loop ends exactly if it finds every service in the repository. -/
theorem exists_minService_iff (services : List Uid) (found : UInt32 × Uid) :
    (∃ found', minService repository services found = some found') ↔
      ∀ it ∈ services, repository.getServiceInfo it ≠ none := by
  induction services generalizing found with
  | nil => simp [minService]
  | cons it services ih =>
    rw [minService, List.forall_mem_cons]
    split
    · next hnone => simp [hnone]
    · next info hinfo =>
      split <;> simp [ih, hinfo]

theorem exists_startAsMaster_iff (w : WaitingServiceManager) (repository : ServiceRepository) :
    (∃ w', w.startAsMaster repository = some w') ↔
      ∃ found, minService repository (w.mLocalWaitingServices ++ w.mRemoteWaitingServices)
        (UINT_MAX, []) = some found := by
  rw [minService_append, startAsMaster]
  cases minService repository w.mLocalWaitingServices (UINT_MAX, []) with
  | none => simp
  | some found =>
    cases hremote : minService repository w.mRemoteWaitingServices found with
    | none => simp [hremote]
    | some found' => simp [hremote]

/-- **The master takes a service of smallest priority**, or none where there is none to start, and
finds all of them in its repository, exactly if they are there and some service that is to be
started, if there is one, has a priority other than `UINT_MAX`. -/
theorem chooses_iff (w : WaitingServiceManager) (repository : ServiceRepository) :
    (∃ w', w.startAsMaster repository = some w' ∧
        Chooses repository (w.mLocalWaitingServices ++ w.mRemoteWaitingServices)
          w'.mServiceToStart) ↔
      (∀ it ∈ w.mLocalWaitingServices ++ w.mRemoteWaitingServices,
        repository.getServiceInfo it ≠ none) ∧
      ((∃ it ∈ w.mLocalWaitingServices ++ w.mRemoteWaitingServices, ∃ priority,
          Startable repository it priority) →
        ∃ it ∈ w.mLocalWaitingServices ++ w.mRemoteWaitingServices, ∃ priority,
          Startable repository it priority ∧ priority ≠ UINT_MAX) := by
  have hends := (exists_startAsMaster_iff w repository).trans
    (exists_minService_iff _ _)
  constructor
  · rintro ⟨w', hstart, hchooses⟩
    refine ⟨hends.mp ⟨w', hstart⟩, ?_⟩
    rintro ⟨it, hit, priority, hpriority⟩
    obtain ⟨minPrio, service, hfound, rfl⟩ := startAsMaster_eq hstart
    rcases (smallestSoFar_nil.minService hfound).source with hfirst | ⟨hmem, hsource, hlt⟩
    · obtain ⟨rfl, rfl⟩ := Prod.mk.inj hfirst
      exact absurd hpriority (hchooses.nothing rfl it hit priority)
    · exact ⟨service, hmem, minPrio, hsource, UInt32.ne_of_lt hlt⟩
  · rintro ⟨hknown, hmax⟩
    obtain ⟨w', hstart⟩ := hends.mpr hknown
    refine ⟨w', hstart, ?_⟩
    obtain ⟨minPrio, service, hfound, rfl⟩ := startAsMaster_eq hstart
    have hsmallest := smallestSoFar_nil.minService hfound
    rw [List.nil_append] at hsmallest
    rcases hsmallest.source with hfirst | ⟨hmem, hsource, -⟩
    · obtain ⟨rfl, rfl⟩ := Prod.mk.inj hfirst
      refine ⟨fun hne => absurd rfl hne, fun _ it hit priority hpriority => ?_⟩
      obtain ⟨it', hit', priority', hpriority', hne⟩ := hmax ⟨it, hit, priority, hpriority⟩
      exact hne (UInt32.le_antisymm (le_UINT_MAX _) (hsmallest.le it' hit' priority' hpriority'))
    · exact ⟨fun _ => ⟨hmem, minPrio, hsource, hsmallest.le⟩,
        fun hnil => absurd hnil hsource.ne_nil⟩

/-- The other side has a service that is not in the repository. -/
theorem unknown_remote_service :
    ¬ ∃ w', (WaitingServiceManager.init.setRemoteWaitingServices [[117]]).startAsMaster
        ⟨fun _ => none, rfl⟩ = some w' ∧
      Chooses ⟨fun _ => none, rfl⟩ [[117]] w'.mServiceToStart := by
  rintro ⟨w', hstart, -⟩
  cases hstart

end IviLink.ProfileManager.WaitingServices.WaitingServiceManager
