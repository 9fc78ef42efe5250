import Qarax.Control.VmLifecycle

/-!
# What a started VM boots with

The node boots the definition it was given when the VM was first started.  From then on every change
of the VM's rows in `vm_disks` has to be made to the definition as well, and this module says when
it is.

* `Boots` — a definition has the disks that the request built from the database would give it.
* `Mirrored` — every registered VM has such a definition.
* `Deployment.mirrors` — the steps that keep it so.
-/

namespace Qarax

open Machine Storage VmManager Deployment Proc

/-- **The definition is the one that the database gives.** -/
def Boots (env : AppEnv) (st : Storage) (vm : VmRow) (i : VmInstance) : Prop :=
  (i.disks.map DiskConfig.id).Nodup ∧ ∃ req, buildCreateVmRequest st vm = .ok req ∧
    i.disks.Perm (definedDisks env.runtimeDir (vmConfig env req))

structure Mirrored (env : AppEnv) (s : Deployment) : Prop where
  vmIds : (s.vms.map VmRow.id).Nodup
  hosted : ∀ vm ∈ s.vms, vm.hostId.isSome = true
  names : (s.storage.disks.map fun d => (d.vmId, d.logicalName)).Nodup
  ids : (s.storage.disks.map VmDisk.id).Nodup
  backed : ∀ d ∈ s.storage.disks, d.storageObjectId.isSome = true
  created : ∀ vm ∈ s.vms, vm.status = .created → instance? vm.id s.instances = none
  boots : ∀ vm ∈ s.vms, ∀ i, instance? vm.id s.instances = some i → Boots env s.storage vm i

/-- The node can make a disk of the object without mapping an image. -/
def Storage.isPlain (st : Storage) (objectId : Uuid) : Bool :=
  (st.object? objectId).all fun object =>
    (st.pool? object.storagePoolId).all fun pool =>
      pool.poolType ≠ .overlayBd && (pool.poolType ≠ .block || (iscsiByPath object.config).isSome)

/-- The checks of `commit` before its job. -/
def Deployment.commitStarts (s : Deployment) (vmId : Uuid) (req : CommitVmRequest) : Bool :=
  (s.vm? vmId).any fun vm =>
    vm.imageRef.isSome && (vm.status = .created || vm.status = .shutdown) &&
      (findOciDisk s.storage vmId req.choice).isOk &&
      vm.hostId.any fun host => (checkTargetPool s.storage host req.storagePoolId).isOk

/-- **Steps whose change reaches the definition.**  A VM that its node has registered is not given a
disk on an image or on an object that cannot be resolved, and is not committed. -/
def Deployment.mirrors (s : Deployment) : LifecycleAction → Bool
  | .attachDisk vmId _ req =>
    (instance? vmId s.instances).isNone || s.storage.isPlain req.storageObjectId
  | .commit vmId req => (instance? vmId s.instances).isNone || !s.commitStarts vmId req
  | _ => true

/-! ## Requests -/

variable {i : VmInstance} {name : String} {pool : StoragePool}

section Requests

variable {st st' : Storage} {vm : VmRow} {disk : VmDisk} {disks : List VmDisk}
  {configs : List DiskConfig}

/-- The two agree on what the disks of a VM refer to. -/
structure Storage.Agree (st st' : Storage) (vmId : Uuid) : Prop where
  pools : st'.pools = st.pools
  hostPools : st'.hostPools = st.hostPools
  disks : st'.listByVm vmId = st.listByVm vmId
  objects : ∀ d ∈ st.listByVm vmId, ∀ id ∈ d.objects, st'.object? id = st.object? id

lemma pool?_congr (h : st'.pools = st.pools) (id : Uuid) : st'.pool? id = st.pool? id := by
  simp only [pool?, h]

variable (hp : st'.pools = st.pools)

include hp

lemma resolveDisk_congr (ho : ∀ id ∈ disk.objects, st'.object? id = st.object? id) :
    resolveDisk st' disk = resolveDisk st disk := by
  unfold resolveDisk
  cases hs : disk.storageObjectId with
  | none => rfl
  | some objectId =>
    have hobj : st'.object? objectId = st.object? objectId := ho _ (by simp [VmDisk.objects, hs])
    have hupper : disk.upperStorageObjectId.bind st'.object?
        = disk.upperStorageObjectId.bind st.object? := by
      cases hu : disk.upperStorageObjectId with
      | none => rfl
      | some upper => exact ho _ (by simp [VmDisk.objects, hu])
    simp only [hobj, hupper, pool?_congr hp]

lemma resolveDisks_congr (ho : ∀ d ∈ disks, ∀ id ∈ d.objects, st'.object? id = st.object? id) :
    resolveDisks st' disks = resolveDisks st disks := by
  induction disks with
  | nil => rfl
  | cons d ds ih =>
    rw [resolveDisks, resolveDisks, resolveDisk_congr hp (ho d (by simp)),
      ih fun d hd => ho d (by simp [hd])]

lemma poolsOf_congr (ho : ∀ d ∈ disks, ∀ id ∈ d.objects, st'.object? id = st.object? id) :
    poolsOf st' disks = poolsOf st disks := by
  refine List.filterMap_congr fun id hid => ?_
  obtain ⟨d, hd, hid⟩ := List.mem_flatMap.1 hid
  simp only [ho d hd id hid, pool?_congr hp]

lemma ensureLocalPools_congr (hh : st'.hostPools = st.hostPools)
    (ho : ∀ d ∈ disks, ∀ id ∈ d.objects, st'.object? id = st.object? id) (host : Option Uuid) :
    ensureLocalPools st' host disks = ensureLocalPools st host disks := by
  simp only [ensureLocalPools, unreachablePool, poolsOf_congr hp ho, hostHasPool, hh]

omit hp

lemma buildCreateVmRequest_congr (h : st.Agree st' vm.id) :
    buildCreateVmRequest st' vm = buildCreateVmRequest st vm := by
  simp only [buildCreateVmRequest, h.disks, ensureLocalPools_congr h.pools h.hostPools h.objects,
    resolveDisks_congr h.pools h.objects]

/-- What a request consists of. -/
lemma buildCreateVmRequest_eq_ok {req : CreateVmRequest} :
    buildCreateVmRequest st vm = .ok req ↔
      ensureLocalPools st vm.hostId (st.listByVm vm.id) = .ok () ∧
      ∃ configs, resolveDisks st (st.listByVm vm.id) = .ok configs ∧
        req = ⟨vm.id, configs, vm.cloudInitUserData⟩ := by
  simp only [buildCreateVmRequest, except_bind_eq_ok]
  constructor
  · rintro ⟨⟨⟩, hl, configs, hr, heq⟩
    exact ⟨hl, configs, hr, (Except.ok.inj heq).symm⟩
  · rintro ⟨hl, configs, hr, rfl⟩
    exact ⟨(), hl, configs, hr, rfl⟩

lemma Boots.congr {env : AppEnv} (h : Boots env st vm i) (ha : st.Agree st' vm.id) :
    Boots env st' vm i := by
  obtain ⟨hn, req, hreq, hp⟩ := h
  exact ⟨hn, req, by rw [buildCreateVmRequest_congr ha, hreq], hp⟩

@[simp] lemma id_protoDiskToSdk (c : DiskConfig) : (protoDiskToSdk c).id = c.id := rfl

@[simp] lemma id_mapDisk (c : DiskConfig) : (mapDisk c).id = c.id := by
  unfold mapDisk
  split <;> rfl

/-- The definition of a disk of a request. -/
def definedDisk (c : DiskConfig) : DiskConfig := protoDiskToSdk (mapDisk c)

@[simp] lemma id_definedDisk (c : DiskConfig) : (definedDisk c).id = c.id := by simp [definedDisk]

/-- Around the disks of a request stand others that do not depend on them. -/
lemma definedDisks_vmConfig (env : AppEnv) (vmId : Uuid) (userData : Option String) :
    ∃ before after, ∀ configs, definedDisks env.runtimeDir (vmConfig env ⟨vmId, configs, userData⟩)
      = before ++ configs.map definedDisk ++ after := by
  let config := vmConfig env ⟨vmId, [], userData⟩
  refine ⟨config.disks.map definedDisk, (seedDisks env.runtimeDir config).map protoDiskToSdk,
    fun configs => ?_⟩
  simp only [definedDisks, config, vmConfig, List.append_nil, List.map_append, List.map_map]
  rfl

/-- A row with a storage object becomes one disk, under its logical name. -/
lemma resolveDisk_eq_ok (hb : disk.storageObjectId.isSome = true)
    (h : resolveDisk st disk = .ok configs) : ∃ c, configs = [c] ∧ c.id = disk.logicalName := by
  unfold resolveDisk at h
  obtain ⟨objectId, hs⟩ := Option.isSome_iff_exists.1 hb
  simp only [hs, except_bind_eq_ok] at h
  obtain ⟨obj, -, pool, -, c, hc, heq⟩ := h
  exact ⟨c, (Except.ok.inj heq).symm, id_of_diskConfigForHotplug hc⟩

lemma resolveDisks_cons_eq_ok : resolveDisks st (disk :: disks) = .ok configs ↔
    ∃ c cs, resolveDisk st disk = .ok c ∧ resolveDisks st disks = .ok cs ∧ configs = c ++ cs := by
  simp only [resolveDisks, except_bind_eq_ok]
  constructor
  · rintro ⟨c, hc, cs, hcs, heq⟩
    exact ⟨c, cs, hc, hcs, (Except.ok.inj heq).symm⟩
  · rintro ⟨c, cs, hc, hcs, rfl⟩
    exact ⟨c, hc, cs, hcs, rfl⟩

lemma resolveDisks_filter (hb : ∀ d ∈ disks, d.storageObjectId.isSome = true)
    (h : resolveDisks st disks = .ok configs) :
    resolveDisks st (disks.filter (·.logicalName ≠ name)) = .ok (configs.filter (·.id ≠ name)) := by
  induction disks generalizing configs with
  | nil =>
    cases h
    rfl
  | cons d ds ih =>
    obtain ⟨_, cs, hd, hds, rfl⟩ := resolveDisks_cons_eq_ok.1 h
    obtain ⟨c, rfl, hid⟩ := resolveDisk_eq_ok (hb d (by simp)) hd
    have hrest := ih (fun d hd => hb d (by simp [hd])) hds
    by_cases hname : d.logicalName = name
    · simpa [hname, hid] using hrest
    · rw [List.filter_cons_of_pos (by simpa using hname)]
      refine resolveDisks_cons_eq_ok.2 ⟨[c], _, hd, hrest, ?_⟩
      simp [hid, hname]

/-- A disk that is there appears in the request. -/
lemma mem_configs_of_mem (hb : ∀ d ∈ disks, d.storageObjectId.isSome = true)
    (hd : ∃ d ∈ disks, d.logicalName = name) (h : resolveDisks st disks = .ok configs) :
    ∃ c ∈ configs, c.id = name := by
  induction disks generalizing configs with
  | nil => simp at hd
  | cons d ds ih =>
    obtain ⟨_, cs, hdisk, hds, rfl⟩ := resolveDisks_cons_eq_ok.1 h
    obtain ⟨c, rfl, hid⟩ := resolveDisk_eq_ok (hb d (by simp)) hdisk
    obtain ⟨d', hmem, hname⟩ := hd
    rcases List.mem_cons.1 hmem with rfl | hmem
    · exact ⟨c, by simp, hid.trans hname⟩
    · obtain ⟨c', hc', hid'⟩ := ih (fun d hd => hb d (by simp [hd])) ⟨d', hmem, hname⟩ hds
      exact ⟨c', by simp [hc'], hid'⟩

lemma ensureLocalPools_eq_ok {host : Option Uuid} : ensureLocalPools st host disks = .ok () ↔
    ∀ h, host = some h → ∀ pool ∈ poolsOf st disks, pool.poolType = .local →
      st.hostHasPool h pool.id = true := by
  cases host with
  | none => simp [ensureLocalPools]
  | some h =>
    simp only [ensureLocalPools, Option.some.injEq, forall_eq']
    cases hu : unreachablePool st h disks with
    | none => simpa [unreachablePool] using hu
    | some pool =>
      have hp := List.find?_some hu
      have hm := List.mem_of_find?_eq_some hu
      simp only [reduceCtorEq, false_iff]
      simp only [Bool.and_eq_true, decide_eq_true_eq, Bool.not_eq_true'] at hp
      intro hall
      simp [hall pool hm hp.1] at hp

lemma poolsOf_cons : poolsOf st (disk :: disks) = poolsOf st [disk] ++ poolsOf st disks := by
  simp [poolsOf]

lemma mem_poolsOf_filter {p : VmDisk → Bool} (h : pool ∈ poolsOf st (disks.filter p)) :
    pool ∈ poolsOf st disks := by
  simp only [poolsOf, List.mem_filterMap, List.mem_flatMap, List.mem_filter] at h ⊢
  obtain ⟨id, ⟨d, ⟨hd, -⟩, hid⟩, hpool⟩ := h
  exact ⟨id, ⟨d, hd, hid⟩, hpool⟩

/-- The tables differ in `vm_disks` only. -/
structure Storage.SameObjects (st st' : Storage) : Prop where
  pools : st'.pools = st.pools
  hostPools : st'.hostPools = st.hostPools
  objects : st'.objects = st.objects

lemma Storage.SameObjects.object? (h : st.SameObjects st') (id : Uuid) :
    st'.object? id = st.object? id := by
  simp only [Storage.object?, h.objects]

variable {env : AppEnv} {i : VmInstance}

/-- **Adding a disk** to the rows and to the definition. -/
lemma Boots.add {config : DiskConfig} (h : Boots env st vm i) (hs : st.SameObjects st')
    (hlist : st'.listByVm vm.id = disk :: st.listByVm vm.id)
    (hc : resolveDisk st disk = .ok [config]) (hplain : mapDisk config = config)
    (hlocal : ensureLocalPools st vm.hostId [disk] = .ok ())
    (hid : ∀ d ∈ i.disks, d.id ≠ config.id) :
    Boots env st' vm { i with disks := i.disks ++ [protoDiskToSdk config] } := by
  obtain ⟨hn, req, hreq, hp⟩ := h
  obtain ⟨hl, configs, hr, rfl⟩ := buildCreateVmRequest_eq_ok.1 hreq
  obtain ⟨before, after, hdef⟩ := definedDisks_vmConfig env vm.id vm.cloudInitUserData
  refine ⟨?_, ⟨vm.id, config :: configs, vm.cloudInitUserData⟩, ?_, ?_⟩
  · rw [List.map_append, List.nodup_append]
    refine ⟨hn, by simp, ?_⟩
    simp only [List.mem_map, List.map_cons, List.map_nil, List.mem_singleton]
    rintro _ ⟨d, hd, rfl⟩ _ rfl
    exact hid d hd
  · refine buildCreateVmRequest_eq_ok.2 ⟨?_, config :: configs, ?_, rfl⟩
    · rw [hlist, ensureLocalPools_congr hs.pools hs.hostPools fun _ _ id _ => hs.object? id]
      rw [ensureLocalPools_eq_ok] at hlocal hl ⊢
      intro host hh pool hpool
      rw [poolsOf_cons] at hpool
      rcases List.mem_append.1 hpool with hpool | hpool
      · exact hlocal host hh pool hpool
      · exact hl host hh pool hpool
    · rw [hlist, resolveDisks_congr hs.pools fun _ _ id _ => hs.object? id]
      exact resolveDisks_cons_eq_ok.2 ⟨_, _, hc, hr, rfl⟩
  · rw [hdef] at hp ⊢
    have hsdk : definedDisk config = protoDiskToSdk config := by rw [definedDisk, hplain]
    calc i.disks ++ [protoDiskToSdk config]
        _ |>.Perm (before ++ configs.map definedDisk ++ after ++ [protoDiskToSdk config]) :=
          hp.append_right _
        _ |>.Perm (before ++ (config :: configs).map definedDisk ++ after) := by
          simp only [List.map_cons, hsdk, List.append_assoc, List.cons_append]
          rw [← List.append_assoc (configs.map definedDisk)]
          exact (List.perm_append_singleton _ _).append_left _

/-- Filtering out an id that stands in the middle leaves the sides alone. -/
lemma filter_middle {before middle after : List DiskConfig}
    (hn : ((before ++ middle ++ after).map DiskConfig.id).Nodup) (hm : ∃ c ∈ middle, c.id = name) :
    (before ++ middle ++ after).filter (·.id ≠ name)
      = before ++ middle.filter (·.id ≠ name) ++ after := by
  obtain ⟨c, hc, rfl⟩ := hm
  simp only [List.map_append, List.nodup_append, List.mem_append, List.mem_map] at hn
  obtain ⟨⟨-, -, hbefore⟩, -, hafter⟩ := hn
  have hb : before.filter (·.id ≠ c.id) = before := by
    refine List.filter_eq_self.2 fun d hd => ?_
    simpa using hbefore d.id ⟨d, hd, rfl⟩ c.id ⟨c, hc, rfl⟩
  have ha : after.filter (·.id ≠ c.id) = after := by
    refine List.filter_eq_self.2 fun d hd => ?_
    simpa using (hafter c.id (.inr ⟨c, hc, rfl⟩) d.id ⟨d, hd, rfl⟩).symm
  rw [List.filter_append, List.filter_append, hb, ha]

/-- **Removing a disk** from the rows and from the definition. -/
lemma Boots.remove (h : Boots env st vm i) (hs : st.SameObjects st')
    (hb : ∀ d ∈ st.listByVm vm.id, d.storageObjectId.isSome = true)
    (hname : ∃ d ∈ st.listByVm vm.id, d.logicalName = name)
    (hlist : st'.listByVm vm.id = (st.listByVm vm.id).filter (·.logicalName ≠ name)) :
    Boots env st' vm { i with disks := i.disks.filter (·.id ≠ name) } := by
  obtain ⟨hn, req, hreq, hp⟩ := h
  obtain ⟨hl, configs, hr, rfl⟩ := buildCreateVmRequest_eq_ok.1 hreq
  obtain ⟨before, after, hdef⟩ := definedDisks_vmConfig env vm.id vm.cloudInitUserData
  refine ⟨hn.sublist (List.filter_sublist.map _),
    ⟨vm.id, configs.filter (·.id ≠ name), vm.cloudInitUserData⟩, ?_, ?_⟩
  · refine buildCreateVmRequest_eq_ok.2 ⟨?_, _, ?_, rfl⟩
    · rw [hlist, ensureLocalPools_congr hs.pools hs.hostPools fun _ _ id _ => hs.object? id]
      rw [ensureLocalPools_eq_ok] at hl ⊢
      exact fun host hh pool hpool => hl host hh pool (mem_poolsOf_filter hpool)
    · rw [hlist, resolveDisks_congr hs.pools fun _ _ id _ => hs.object? id]
      exact resolveDisks_filter hb hr
  · rw [hdef] at hp ⊢
    obtain ⟨c, hc, hid⟩ := mem_configs_of_mem hb hname hr
    have hids : ((before ++ configs.map definedDisk ++ after).map DiskConfig.id).Nodup :=
      (hp.map _).nodup_iff.1 hn
    have hmiddle : (configs.map definedDisk).filter (·.id ≠ name)
        = (configs.filter (·.id ≠ name)).map definedDisk := by
      rw [List.filter_map]
      simp only [Function.comp_def, id_definedDisk]
    rw [← hmiddle, ← filter_middle hids ⟨definedDisk c, List.mem_map_of_mem hc, by simpa using hid⟩]
    exact hp.filter _

end Requests

/-! ## Keeping definitions and rows together -/

variable {st : Storage} {vm : VmRow} {status : VmStatus} {instances : List VmInstance}
  {vms : List VmRow} {object obj : StorageObject} {disk : VmDisk} {objectId : Uuid}
  {req : NewVmRequest} {t : Deployment}

section Mirrored

variable {env : AppEnv} {s : Deployment} {id : Uuid}

/-! ### Tables and checks -/

lemma mem_of_vm? (h : s.vm? id = some vm) : vm ∈ s.vms ∧ vm.id = id :=
  ⟨List.mem_of_find?_eq_some h, by simpa using List.find?_some h⟩

lemma vm?_instances (instances : List VmInstance) :
    { s with instances }.vm? id = s.vm? id := rfl

lemma vm?_setStatus (status : VmStatus) :
    (s.setStatus id status).vm? id = (s.vm? id).map fun vm => { vm with status } :=
  Rows.find?_update_self fun _ hr => hr

/-- The check does not depend on statuses. -/
lemma ensureDisksCanStart_vms {vms' : List VmRow} {disks : List VmDisk}
    (h : ensureDisksCanStart st vms id disks = .ok ()) :
    ensureDisksCanStart st vms' id disks = .ok () := by
  induction disks with
  | nil => rfl
  | cons d ds ih =>
    unfold ensureDisksCanStart at h ⊢
    cases hs : d.storageObjectId with
    | none =>
      rw [hs] at h
      exact ih h
    | some objectId =>
      rw [hs] at h
      simp only [except_bind_eq_ok] at h ⊢
      obtain ⟨object, ho, pool, hp, ⟨⟩, hatt, hrest⟩ := h
      refine ⟨object, ho, pool, hp, (), ?_, ih hrest⟩
      unfold ensureStorageObjectCanBeAttached at hatt ⊢
      split_ifs at hatt ⊢ with hx
      · rfl
      · cases hc : (st.listByStorageObject object.id).find? fun d => some d.vmId ≠ some id with
        | none => rfl
        | some conflict =>
          rw [hc] at hatt
          cases hatt

lemma ensureVmStartAllowed_run (he : ensureVmDiskAttachmentsCanStart s.storage vms id = .ok ())
    (hv : (s.vm? id).isSome = true) : ensureVmStartAllowed id s = (.ok (), s) := by
  have he' : ensureVmDiskAttachmentsCanStart s.storage s.vms id = .ok () :=
    ensureDisksCanStart_vms he
  obtain ⟨vm, hvm⟩ := Option.isSome_iff_exists.1 hv
  simp only [ensureVmStartAllowed, hvm, he']

lemma startVm_eq (instances : List VmInstance) : startVm id instances =
    match instance? id instances with
    | none => .error (.vmNotFound id)
    | some i => .ok (updateInstance id (fun _ => { i with status := .running }) instances) := by
  unfold startVm onInstance
  cases instance? id instances <;> rfl

/-- A VM that is created on its node has the definition that the request gives it. -/
lemma createVm_eq_ok {config : VmConfig} {instances' : List VmInstance}
    (h : createVm env.runtimeDir config instances = .ok instances') :
    ((definedDisks env.runtimeDir config).map DiskConfig.id).Nodup ∧
      instances' = ⟨config.vmId, definedDisks env.runtimeDir config, .created⟩ :: instances := by
  unfold createVm at h
  split at h
  · cases h
  · simp only at h
    split at h
    next hn =>
      cases h
      exact ⟨hn, rfl⟩
    next => cases h

lemma object?_cons_of_ne (h : id ≠ object.id) :
    { st with objects := object :: st.objects }.object? id = st.object? id := by
  simp [object?, h.symm]

lemma not_mem_objects (h : s.newObjectId id = true) : ∀ d ∈ s.storage.disks, id ∉ d.objects := by
  simp only [newObjectId, Bool.and_eq_true, List.all_eq_true, decide_eq_true_eq] at h
  exact h.2

lemma newDiskId_iff : s.newDiskId id = true ↔ id ∉ s.storage.disks.map VmDisk.id := by
  simp only [newDiskId, List.all_eq_true, List.mem_map, not_exists, not_and,
    decide_eq_true_eq]

lemma listByVm_cons_self (h : disk.vmId = id) :
    { st with disks := disk :: st.disks }.listByVm id = disk :: st.listByVm id := by
  simp [listByVm, h]

lemma listByVm_cons_of_ne (h : disk.vmId ≠ id) :
    { st with disks := disk :: st.disks }.listByVm id = st.listByVm id := by
  simp [listByVm, h]

lemma deleteDisk_cons (h : disk.id ∉ st.disks.map VmDisk.id) :
    { st with disks := disk :: st.disks }.deleteDisk disk.id = st := by
  have hfilter : st.disks.filter (·.id ≠ disk.id) = st.disks := by
    refine List.filter_eq_self.2 fun d hd => ?_
    simp only [ne_eq, decide_not, Bool.not_eq_true', decide_eq_false_iff_not]
    exact fun heq => h (List.mem_map.2 ⟨d, hd, heq⟩)
  simp only [deleteDisk, ne_eq, not_true_eq_false, decide_false, Bool.false_eq_true,
    not_false_eq_true, List.filter_cons_of_neg, hfilter]

/-- An object without an image gives a disk that needs no mapping. -/
lemma plain_diskConfig {upper : Option StorageObject} {config : DiskConfig}
    (hp : pool.poolType ≠ .overlayBd) (h : diskConfigForHotplug disk obj pool upper = .ok config) :
    mapDisk config = config := by
  unfold diskConfigForHotplug at h
  split at h
  · exact absurd ‹_› hp
  · cases h
    rfl
  · cases h
    rfl
  · split at h
    · cases h
      rfl
    · cases h

/-- What a local pool requires, for one new row. -/
lemma ensureLocalPools_singleton (hn : onNode vm.status = true)
    (hl : ensureLocalPool s.storage vm pool = .ok ()) (hobj : disk.storageObjectId = some obj.id)
    (hupper : disk.upperStorageObjectId = none) (hfind : s.storage.object? obj.id = some obj)
    (hpool : s.storage.pool? obj.storagePoolId = some pool) :
    ensureLocalPools s.storage vm.hostId [disk] = .ok () := by
  refine ensureLocalPools_eq_ok.2 fun host hh p hp hlocal => ?_
  simp only [poolsOf, List.flatMap_cons, List.flatMap_nil, VmDisk.objects, hobj, hupper,
    Option.toList_some, Option.toList_none, List.append_nil, List.filterMap_cons, hfind,
    Option.bind_some, hpool, List.filterMap_nil, List.mem_singleton] at hp
  subst hp
  simp only [ensureLocalPool, hlocal, hn, decide_true, Bool.and_self, if_true, hh] at hl
  by_contra hno
  simp [hno] at hl

/-- A VM whose disks can change is on no node or is `Running` or `Shutdown`. -/
lemma created_of_not_onNode {message : String} (h : disksCanChange message status = .ok ())
    (hn : onNode status = false) : status = .created := by
  cases status with
  | created => rfl
  | running | shutdown => simp [onNode] at hn
  | unknown | pending | paused | migrating | committing => cases h

lemma newObjectId_setStatus :
    (s.setStatus id status).newObjectId objectId = s.newObjectId objectId := rfl

lemma mem_of_findOciDisk {choice : Uuid} (h : findOciDisk st id choice = .ok disk) :
    disk ∈ st.listByVm id := by
  simp only [findOciDisk] at h
  split at h
  · cases h
  next d hd =>
    split_ifs at h
    cases h
    rcases Option.or_eq_some_iff.1 hd with hd | ⟨-, hd⟩
    · exact List.mem_of_mem_filter (List.mem_of_find?_eq_some hd)
    · exact List.mem_of_mem_filter (List.mem_of_head? hd)

lemma not_registered (h : s.newVmId req.id = true) : instance? req.id s.instances = none := by
  simp only [newVmId, Bool.and_eq_true, List.all_eq_true, decide_eq_true_eq] at h
  simpa [instance?] using h.2

/-- Two rows that the request cannot tell apart. -/
lemma Boots.of_row {vm' : VmRow} (h : Boots env st vm i) (hid : vm'.id = vm.id)
    (hhost : vm'.hostId = vm.hostId) (hdata : vm'.cloudInitUserData = vm.cloudInitUserData) :
    Boots env st vm' i := by
  obtain ⟨hn, req, hreq, hp⟩ := h
  refine ⟨hn, req, ?_, hp⟩
  rw [← hreq]
  simp only [buildCreateVmRequest, hid, hhost, hdata]

/-- Rows of disks as `Mirrored` asks for them. -/
structure TidyDisks (disks : List VmDisk) : Prop where
  names : (disks.map fun d => (d.vmId, d.logicalName)).Nodup
  ids : (disks.map VmDisk.id).Nodup
  backed : ∀ d ∈ disks, d.storageObjectId.isSome = true

section

variable (h : Mirrored env s)

include h

lemma Mirrored.tidy : TidyDisks s.storage.disks := ⟨h.names, h.ids, h.backed⟩

/-- Status and image of a VM are written.  A VM becomes `Created` only when it is not registered. -/
lemma Mirrored.updateVm {f : VmRow → VmRow} (hid : ∀ vm, (f vm).id = vm.id)
    (hhost : ∀ vm, (f vm).hostId = vm.hostId)
    (hdata : ∀ vm, (f vm).cloudInitUserData = vm.cloudInitUserData)
    (hc : ∀ vm ∈ s.vms, vm.id = id → (f vm).status = .created → instance? id s.instances = none) :
    Mirrored env (s.updateVm id f) := by
  refine ⟨?_, ?_, h.names, h.ids, h.backed, ?_, ?_⟩
  · have hmap : (s.updateVm id f).vms.map VmRow.id = s.vms.map VmRow.id := Rows.map_update hid
    rw [hmap]
    exact h.vmIds
  · refine Rows.forall_update.2 fun vm hvm => ⟨fun _ => ?_, fun _ => h.hosted vm hvm⟩
    rw [hhost]
    exact h.hosted vm hvm
  · refine Rows.forall_update.2 fun vm hvm => ⟨fun heq hst => ?_, fun _ => h.created vm hvm⟩
    rw [hid, heq]
    exact hc vm hvm heq hst
  · refine Rows.forall_update.2 fun vm hvm => ⟨fun _ i hi => ?_, fun _ => h.boots vm hvm⟩
    rw [hid] at hi
    exact (h.boots vm hvm i hi).of_row (hid vm) (hhost vm) (hdata vm)

lemma Mirrored.updateStatus
    (hc : status = .created → instance? id s.instances = none) :
    Mirrored env (s.setStatus id status) :=
  h.updateVm (fun _ => rfl) (fun _ => rfl) (fun _ => rfl) fun _ _ _ hst => hc hst

/-- A VM that is registered boots its disks and is not `Created`. -/
lemma Mirrored.registered (hvm : vm ∈ s.vms)
    (hi : instance? vm.id s.instances = some i) :
    vm.status ≠ .created ∧ Boots env s.storage vm i := by
  refine ⟨fun hst => ?_, h.boots vm hvm i hi⟩
  rw [h.created vm hvm hst] at hi
  cases hi

/-- Storage and instances are replaced. -/
lemma Mirrored.replace
    (ht : TidyDisks st.disks)
    (hown : ∀ vm ∈ s.vms, ∀ i, instance? vm.id instances = some i →
      vm.status ≠ .created ∧ Boots env st vm i) :
    Mirrored env { s with storage := st, instances } := by
  refine ⟨h.vmIds, h.hosted, ht.names, ht.ids, ht.backed, fun vm hvm hst => ?_,
    fun vm hvm i hi => (hown vm hvm i hi).2⟩
  cases hi : instance? vm.id instances with
  | none => rfl
  | some i => exact absurd hst (hown vm hvm i hi).1

/-- The instance of one VM is replaced. -/
lemma Mirrored.setInstances (id : Uuid)
    (hother : ∀ other, other ≠ id → instance? other instances = instance? other s.instances)
    (hown : ∀ i, instance? id instances = some i → ∀ vm ∈ s.vms, vm.id = id →
      vm.status ≠ .created ∧ Boots env s.storage vm i) : Mirrored env { s with instances } := by
  refine h.replace h.tidy fun vm hvm i hi => ?_
  by_cases hid : vm.id = id
  · exact hown i (hid ▸ hi) vm hvm hid
  · exact h.registered hvm ((hother _ hid).symm.trans hi)

/-- The disks, pools and objects change, but not for the VMs that are registered. -/
lemma Mirrored.setStorage
    (ht : TidyDisks st.disks)
    (hagree : ∀ vm ∈ s.vms, (instance? vm.id s.instances).isSome = true →
      s.storage.Agree st vm.id) :
    Mirrored env { s with storage := st } := by
  refine h.replace ht fun vm hvm i hi => ?_
  obtain ⟨hst, hboots⟩ := h.registered hvm hi
  exact ⟨hst, hboots.congr (hagree vm hvm (by rw [hi]; rfl))⟩

/-- The disks and the definition of one VM change together. -/
lemma Mirrored.change
    (ht : TidyDisks st.disks)
    (hother : ∀ other, other ≠ id → instance? other instances = instance? other s.instances)
    (hagree : ∀ vm ∈ s.vms, vm.id ≠ id → s.storage.Agree st vm.id)
    (hown : ∀ vm ∈ s.vms, vm.id = id → ∀ i', instance? id instances = some i' →
      ∃ i, instance? id s.instances = some i ∧ (Boots env s.storage vm i → Boots env st vm i')) :
    Mirrored env { s with storage := st, instances } := by
  refine h.replace ht fun vm hvm i' hi' => ?_
  by_cases hid : vm.id = id
  · obtain ⟨i, hi, hboots⟩ := hown vm hvm hid i' (hid ▸ hi')
    exact (h.registered hvm (hid ▸ hi)).imp_right hboots
  · exact (h.registered hvm ((hother _ hid).symm.trans hi')).imp_right (·.congr (hagree vm hvm hid))

variable (hv : s.vm? id = some vm)

include hv

/-- The row that was found is the only one of its id. -/
lemma Mirrored.eq_of_id {vm' : VmRow} (hm : vm' ∈ s.vms) (hid : vm'.id = id) : vm' = vm := by
  obtain ⟨hmem, hvid⟩ := mem_of_vm? hv
  exact List.inj_on_of_nodup_map h.vmIds hm hmem (hid.trans hvid.symm)

/-- A `Created` VM is not registered. -/
lemma Mirrored.none_of_created (hst : vm.status = .created) : instance? id s.instances = none := by
  obtain ⟨hmem, rfl⟩ := mem_of_vm? hv
  exact h.created vm hmem hst

/-! ### Start -/

/-- What a start comes to: definitions stay in step, and when it completes the VM runs. -/
def StartOk (env : AppEnv) (id : Uuid) (s : Deployment) (completed : Prop) : Prop :=
  Mirrored env s ∧ (completed → ∃ vm i, s.vm? id = some vm ∧ vm.status = .running ∧
    instance? id s.instances = some i ∧ i.status = .running)

/-- The definitions after `start_vm` are those before it. -/
lemma StartOk.running (hi : instance? id s.instances = some i) (hst : vm.status ≠ .created) :
    StartOk env id ({ s with
      instances :=
        updateInstance id (fun _ => { i with status := .running }) s.instances }.setStatus id
        .running) True := by
  have hid := vmId_of_instance? hi
  have hown : instance? id (updateInstance id (fun _ => { i with status := .running }) s.instances)
      = some { i with status := .running } := by
    rw [instance?_updateInstance_self (f := fun _ => { i with status := .running }) fun _ _ => hid,
      hi]
    rfl
  refine ⟨Mirrored.updateStatus (h.setInstances id ?_ ?_) (by simp), fun _ => ?_⟩
  · exact fun other ho => instance?_updateInstance_of_ne ho fun _ _ => hid
  · intro j hj row hrow hrid
    rw [hown] at hj
    cases hj
    have heq := h.eq_of_id hv hrow hrid
    subst heq
    exact ⟨hst, h.boots row hrow i (hrid ▸ hi)⟩
  · refine ⟨{ vm with status := .running }, _, ?_, rfl, hown, rfl⟩
    rw [vm?_setStatus, vm?_instances, hv]
    rfl

/-- A job for a VM that its node should know. -/
lemma startJob_none (hst : vm.status ≠ .created)
    (hs : status ≠ .created) (he : ensureVmDiskAttachmentsCanStart s.storage vms id = .ok ()) :
    StartOk env id (startJob env id status none s).2
      ((startJob env id status none s).1 = .ok ()) := by
  have hcheck := ensureVmStartAllowed_run he (by rw [hv]; rfl)
  cases hi : instance? id s.instances with
  | none =>
    have hrun : startJob env id status none s = (.error (.startVm (.vmNotFound id)),
        s.setStatus id status) := by
      simp [startJob, createOnNode, bind_run, hcheck, onError, callNode, startVm_eq, hi,
        updateVmStatus]
    rw [hrun]
    exact ⟨h.updateStatus fun hc => absurd hc hs, by simp⟩
  | some i =>
    have hrun : startJob env id status none s = (.ok (), { s with
        instances := updateInstance id (fun _ => { i with status := .running })
          s.instances }.setStatus id .running) := by
      simp [startJob, createOnNode, bind_run, hcheck, onError, callNode, startVm_eq, hi,
        updateVmStatus]
    rw [hrun]
    exact ⟨(StartOk.running h hv hi hst).1, fun _ => (StartOk.running h hv hi hst).2 trivial⟩

/-- A job for a VM that its node does not know. -/
lemma startJob_some {req : CreateVmRequest} (hst : vm.status ≠ .created)
    (hnone : instance? id s.instances = none)
    (hreq : buildCreateVmRequest s.storage vm = .ok req)
    (he : ensureVmDiskAttachmentsCanStart s.storage vms id = .ok ()) :
    StartOk env id (startJob env id .created (some req) s).2
      ((startJob env id .created (some req) s).1 = .ok ()) := by
  have hcheck := ensureVmStartAllowed_run he (by rw [hv]; rfl)
  cases hc : createVm env.runtimeDir (vmConfig env req) s.instances with
  | error e =>
    have hrun : startJob env id .created (some req) s = (.error (.createVm e),
        s.setStatus id .created) := by
      simp [startJob, createOnNode, bind_run, hcheck, onError, callNode, hc,
        updateVmStatus]
    rw [hrun]
    exact ⟨h.updateStatus fun _ => hnone, by simp⟩
  | ok instances =>
    obtain ⟨hn, rfl⟩ := createVm_eq_ok hc
    have hvid : req.vmId = id := by
      obtain ⟨-, -, -, rfl⟩ := buildCreateVmRequest_eq_ok.1 hreq
      exact (mem_of_vm? hv).2
    -- the new instance, registered but not started
    let i : VmInstance :=
      ⟨(vmConfig env req).vmId, definedDisks env.runtimeDir (vmConfig env req), .created⟩
    have hi : instance? id (i :: s.instances) = some i := by
      simp [instance?, i, vmConfig, hvid]
    have h' : Mirrored env { s with instances := i :: s.instances } := by
      refine h.setInstances id (fun other ho => ?_) fun j hj row hrow hrid => ?_
      · simp [instance?, i, vmConfig, hvid, ho.symm]
      · rw [hi] at hj
        cases hj
        have heq := h.eq_of_id hv hrow hrid
        subst heq
        exact ⟨hst, hn, req, hreq, .refl _⟩
    have hcheck' := ensureVmStartAllowed_run (s := { s with instances := i :: s.instances }) he
      (by rw [vm?_instances, hv]; rfl)
    have hrun : startJob env id .created (some req) s = (.ok (), { s with
        instances := updateInstance id (fun _ => { i with status := .running })
          (i :: s.instances) }.setStatus id .running) := by
      simp only [startJob, createOnNode, bind_run, hcheck, onError, callNode, hc]
      rw [hcheck']
      simp [hcheck', startVm_eq, hi, updateVmStatus]
    rw [hrun]
    have hok := StartOk.running h' hv hi hst
    exact ⟨hok.1, fun _ => hok.2 trivial⟩

omit hv

/-- **Starting keeps definitions and rows together.** -/
lemma startOk_startVmInternal (id : Uuid) :
    StartOk env id (startVmInternal env id s).2 ((startVmInternal env id s).1 = .ok (.ok ())) := by
  unfold startVmInternal
  rw [read_bind]
  -- a check that fails leaves everything as it was
  let Q (r : Except ApiError (Except StartFailure Unit) × Deployment) : Prop :=
    StartOk env id r.2 (r.1 = .ok (.ok ()))
  have herr : ∀ e, Q (.error e, s) := fun e => ⟨h, by simp⟩
  refine lift_bind_ind (Q := Q) herr fun vm hvm => ?_
  refine lift_bind_ind (Q := Q) herr fun _ hst => ?_
  refine lift_bind_ind (Q := Q) herr fun _ _ => ?_
  refine lift_bind_ind (Q := Q) herr fun _ he => ?_
  rw [row_eq_ok] at hvm
  rw [updateVmStatus, modify_bind]
  -- from here on the VM is `Pending`
  set s₁ := s.setStatus id .pending with hs₁
  have h₁ : Mirrored env s₁ := h.updateStatus (by simp)
  have hv₁ : s₁.vm? id = some { vm with status := .pending } := by
    rw [hs₁, vm?_setStatus, hvm]
    rfl
  by_cases hcr : vm.status = .created
  · have hnone := h.none_of_created hvm hcr
    cases hb : buildCreateVmRequest s₁.storage vm with
    | error e =>
      have hsetup : startSetup vm s₁ = (.error e, s₁) := by
        simp [startSetup, hcr, bind_run, hb]
      rw [bind_error_run (onError_error hsetup)]
      exact ⟨h₁.updateStatus fun _ => hnone, by simp⟩
    | ok req =>
      have hsetup : startSetup vm s₁ = (.ok (some req), s₁) := by
        simp [startSetup, hcr, bind_run, hb]
      rw [bind_ok_run (onError_ok hsetup), hcr]
      have hok := startJob_some h₁ hv₁ (by simp) hnone hb he
      exact ⟨hok.1, fun hc => hok.2 (Except.ok.inj hc)⟩
  · have hsetup : startSetup vm s₁ = (.ok none, s₁) := by simp [startSetup, hcr]
    rw [bind_ok_run (onError_ok hsetup)]
    have hok := startJob_none h₁ hv₁ (by simp) hcr he
    exact ⟨hok.1, fun hc => hok.2 (Except.ok.inj hc)⟩

/-! ### Stop -/

/-- The definition of one VM stays as it was. -/
lemma Mirrored.sameDisks
    (hother : ∀ other, other ≠ id → instance? other instances = instance? other s.instances)
    (hown : ∀ i', instance? id instances = some i' →
      ∃ i, instance? id s.instances = some i ∧ i'.disks = i.disks) :
    Mirrored env { s with instances } := by
  refine h.setInstances id hother fun i' hi' vm hvm hid => ?_
  obtain ⟨i, hi, hd⟩ := hown i' hi'
  have hb := h.registered hvm (hid ▸ hi)
  rw [Boots, ← hd] at hb
  exact hb

lemma mirrored_stopWith {f : List VmInstance → Except VmManagerError (List VmInstance)}
    (hf : ∀ instances, f s.instances = .ok instances → Mirrored env { s with instances }) :
    Mirrored env (stopWith id f s).2 := by
  unfold stopWith
  rw [Proc.read_bind]
  refine Proc.lift_bind_snd h fun vm _ => ?_
  refine Proc.lift_bind_snd h fun _ _ => ?_
  rw [Proc.bind_ok_run (Proc.attempt_run _ _)]
  refine Mirrored.updateStatus ?_ (by simp)
  unfold callNode
  cases hr : f s.instances with
  | error e => exact h
  | ok instances => exact hf instances hr

/-- Only the status of the instance changes. -/
lemma mirrored_onInstance
    (hi : onInstance id s.instances (fun vm => .ok { vm with status }) = .ok instances) :
    Mirrored env { s with instances } := by
  obtain ⟨⟨r, r', hr, hok, hr'⟩, hother⟩ := onInstance_eq_ok
    (fun r r' hok => by cases hok; rfl) hi
  refine h.sameDisks hother fun i' hi' => ?_
  rw [hr'] at hi'
  cases hi'
  cases hok
  exact ⟨r, hr, rfl⟩

/-! ### Objects -/

lemma Mirrored.insertObject
    (hnew : ∀ d ∈ s.storage.disks, (instance? d.vmId s.instances).isSome = true →
      object.id ∉ d.objects) : Mirrored env (s.insertObject object) := by
  refine h.setStorage h.tidy fun vm _ hsome => ⟨rfl, rfl, rfl, fun d hd id hid => ?_⟩
  obtain ⟨hmem, hvm⟩ := List.mem_filter.1 hd
  rw [decide_eq_true_eq] at hvm
  exact object?_cons_of_ne fun heq => hnew d hmem (by rwa [hvm]) (heq ▸ hid)

lemma Mirrored.deleteObject : Mirrored env (s.deleteObject id) := by
  unfold Deployment.deleteObject Storage.deleteObject
  split_ifs with href
  · exact h
  · refine h.setStorage h.tidy fun vm _ _ => ⟨rfl, rfl, rfl, fun d hd o ho => ?_⟩
    have hne : o ≠ id := by
      rintro rfl
      exact href (List.any_eq_true.2 ⟨d, List.mem_of_mem_filter hd, by simpa using ho⟩)
    simp only [object?, List.find?_filter]
    refine congrArg (List.find? · _) (funext fun x => ?_)
    by_cases hx : x.id = o
    · simp [hx, hne]
    · simp [hx]

/-! ### Disks -/

/-- A new row is refused or written. -/
lemma Mirrored.insertDisk_cases (disk : VmDisk) (hid : s.newDiskId disk.id = true)
    (hb : disk.storageObjectId.isSome = true) :
    (∃ e, insertDisk disk s = (.error e, s)) ∨ insertDisk disk s =
        (.ok (), { s with storage := { s.storage with disks := disk :: s.storage.disks } }) ∧
      TidyDisks (disk :: s.storage.disks) := by
  unfold insertDisk createDisk
  split_ifs with hdup
  · exact .inl ⟨_, rfl⟩
  · refine .inr ⟨rfl, List.nodup_cons.2 ⟨fun hmem => hdup ?_, h.names⟩,
      List.nodup_cons.2 ⟨newDiskId_iff.1 hid, h.ids⟩, List.forall_mem_cons.2 ⟨hb, h.backed⟩⟩
    obtain ⟨d, hd, heq⟩ := List.mem_map.1 hmem
    simp only [Prod.mk.injEq] at heq
    exact List.any_eq_true.2 ⟨d, hd, by simp [heq]⟩

/-- A disk of a VM that is not registered. -/
lemma Mirrored.diskRow (ht : TidyDisks (disk :: s.storage.disks))
    (hnone : instance? disk.vmId s.instances = none) :
    Mirrored env { s with storage := { s.storage with disks := disk :: s.storage.disks } } := by
  refine h.setStorage ht fun vm _ hsome => ⟨rfl, rfl, ?_, fun _ _ _ _ => rfl⟩
  refine listByVm_cons_of_ne fun heq => ?_
  rw [← heq, hnone] at hsome
  cases hsome

/-- The part of `attach_disk` after the row is written. -/
lemma mirrored_applyDisk (hv : s.vm? id = some vm)
    (ht : TidyDisks (disk :: s.storage.disks)) (hvm : disk.vmId = id)
    (hobj : disk.storageObjectId = some obj.id)
    (hupper : disk.upperStorageObjectId = none) (hfind : s.storage.object? obj.id = some obj)
    (hpool : s.storage.pool? obj.storagePoolId = some pool)
    (hlocal : ensureLocalPools s.storage vm.hostId [disk] = .ok ())
    (hc : instance? id s.instances = none ∨
      pool.poolType ≠ .overlayBd ∧ ∃ config, diskConfigForHotplug disk obj pool none = .ok config) :
    Mirrored env (applyDisk vm disk obj pool
      { s with storage := { s.storage with disks := disk :: s.storage.disks } }).2 := by
  set s₁ : Deployment := { s with storage := { s.storage with disks := disk :: s.storage.disks } }
    with hs₁
  obtain ⟨hmem, hvid⟩ := mem_of_vm? hv
  unfold applyDisk
  obtain ⟨host, hhost⟩ := Option.isSome_iff_exists.1 (h.hosted vm hmem)
  have hhostOk : hostForVm vm = .ok host := by simp [hostForVm, hhost]
  rw [bind_ok_run (show lift (hostForVm vm) _ = (.ok host, _) by rw [hhostOk]; rfl)]
  cases hcfg : diskConfigForHotplug disk obj pool none with
  | error e =>
    rw [bind_error_run (lift_run _ _)]
    rcases hc with hnone | ⟨-, config, hok⟩
    · exact h.diskRow ht (hvm ▸ hnone)
    · rw [hcfg] at hok
      cases hok
  | ok config =>
    rw [bind_ok_run (lift_run _ _)]
    cases hadd : addDiskDevice vm.id config s₁.instances with
    | error e =>
      rw [onError_error (callNode_error hadd), modify_run, hs₁]
      simp only [deleteDisk_cons (List.nodup_cons.1 ht.ids).1]
      exact h
    | ok instances =>
      rw [onError_ok (callNode_ok hadd)]
      obtain ⟨⟨i, i', hi, hok, hi'⟩, hother⟩ := onInstance_eq_ok
        (fun r r' hok => by split_ifs at hok; cases hok; rfl) hadd
      rw [hvid] at hi hi' hother
      have hfree : ∀ d ∈ i.disks, d.id ≠ config.id := by
        intro d hd heq
        rw [if_pos (List.any_eq_true.2 ⟨d, hd, by simpa using heq⟩)] at hok
        cases hok
      rw [if_neg (by simpa using hfree)] at hok
      cases hok
      have hplain : mapDisk config = config := by
        rcases hc with hnone | ⟨hp, -⟩
        · rw [hnone] at hi
          cases hi
        · exact plain_diskConfig hp hcfg
      refine h.change ht hother (fun vm' _ hne => ?_) fun vm' hm' heq j hj => ?_
      · exact ⟨rfl, rfl, listByVm_cons_of_ne fun hd => hne (hd.symm.trans hvm),
          fun _ _ _ _ => rfl⟩
      · obtain rfl := h.eq_of_id hv hm' heq
        rw [hi'] at hj
        cases hj
        refine ⟨i, hi, fun hb => hb.add ⟨rfl, rfl, rfl⟩ ?_ ?_ hplain hlocal hfree⟩
        · exact listByVm_cons_self (hvm.trans heq.symm)
        · simp [resolveDisk, hobj, hfind, hpool, hupper, hcfg, row, bind, Except.bind]

lemma mirrored_attachDisk {diskId : Uuid} {req : AttachDiskRequest}
    (hid : s.newDiskId diskId = true)
    (hc : s.mirrors (.attachDisk id diskId req) = true) :
    Mirrored env (attachDisk id diskId req s).2 := by
  unfold attachDisk
  rw [read_bind]
  refine lift_bind_snd h fun vm hvm => ?_
  refine lift_bind_snd h fun _ hst => ?_
  refine lift_bind_snd h fun obj hobj => ?_
  refine lift_bind_snd h fun pool hpool => ?_
  refine lift_bind_snd h fun _ hlocal => ?_
  refine lift_bind_snd h fun _ _ => ?_
  rw [row_eq_ok] at hvm hobj hpool
  have hoid : obj.id = req.storageObjectId := by simpa using List.find?_some hobj
  rw [← hoid] at hobj ⊢
  extract_lets disk
  rcases h.insertDisk_cases disk hid rfl with ⟨e, hrun⟩ | ⟨hrun, ht⟩
  · rw [bind_error_run hrun]
    exact h
  · rw [bind_ok_run hrun]
    split_ifs with hn
    · refine mirrored_applyDisk h hvm ht rfl rfl rfl hobj hpool
        (ensureLocalPools_singleton hn hlocal rfl rfl hobj hpool) ?_
      simp only [mirrors, Bool.or_eq_true, Option.isNone_iff_eq_none, ← hoid] at hc
      refine hc.imp (fun hnone => hnone) fun hplain => ?_
      simp only [isPlain, hobj, hpool, Option.all_some, Bool.and_eq_true,
        decide_eq_true_eq, Bool.or_eq_true] at hplain
      refine ⟨hplain.1, ?_⟩
      unfold diskConfigForHotplug
      split
      · exact ⟨_, rfl⟩
      · exact ⟨_, rfl⟩
      · exact ⟨_, rfl⟩
      next hb =>
        obtain ⟨path, hpath⟩ := Option.isSome_iff_exists.1 (hplain.2.resolve_left fun hne => hne hb)
        rw [hpath]
        exact ⟨_, rfl⟩
    · have hcr := created_of_not_onNode hst (by simpa using hn)
      exact h.diskRow ht (h.none_of_created hvm hcr)

/-- The rows of a VM without the one that is removed. -/
lemma Mirrored.listByVm_deleteDisk (hd : disk ∈ s.storage.listByVm id) :
    (s.storage.deleteDisk disk.id).listByVm id
      = (s.storage.listByVm id).filter (·.logicalName ≠ disk.logicalName) := by
  obtain ⟨hmem, hvm⟩ := List.mem_filter.1 hd
  simp only [decide_eq_true_eq] at hvm
  simp only [listByVm, deleteDisk, List.filter_filter]
  refine List.filter_congr fun d hdm => ?_
  by_cases hdv : d.vmId = id
  · have hiff : d.id = disk.id ↔ d.logicalName = disk.logicalName := by
      constructor
      · intro heq
        rw [List.inj_on_of_nodup_map h.ids hdm hmem heq]
      · intro heq
        have hpair : (d.vmId, d.logicalName) = (disk.vmId, disk.logicalName) := by
          rw [hdv, hvm, heq]
        rw [List.inj_on_of_nodup_map h.names hdm hmem hpair]
    simp [hdv, hiff]
  · simp [hdv]

lemma Mirrored.listByVm_deleteDisk_of_ne {other : Uuid}
    (hd : disk ∈ s.storage.listByVm id) (hne : other ≠ id) :
    (s.storage.deleteDisk disk.id).listByVm other = s.storage.listByVm other := by
  obtain ⟨hmem, hvm⟩ := List.mem_filter.1 hd
  simp only [decide_eq_true_eq] at hvm
  simp only [listByVm, deleteDisk, List.filter_filter]
  refine List.filter_congr fun d hdm => ?_
  by_cases hdv : d.vmId = other
  · have hid : d.id ≠ disk.id := by
      intro heq
      obtain rfl := List.inj_on_of_nodup_map h.ids hdm hmem heq
      exact hne (hdv.symm.trans hvm)
    simp [hdv, hid]
  · simp [hdv]

/-- The tables after a disk is removed. -/
lemma Mirrored.disks_delete (diskId : Uuid) : TidyDisks (s.storage.deleteDisk diskId).disks :=
  ⟨h.names.sublist (List.filter_sublist.map _), h.ids.sublist (List.filter_sublist.map _),
    fun d hd => h.backed d (List.mem_of_mem_filter hd)⟩

lemma mirrored_removeDisk {deviceId : String} :
    Mirrored env (removeDisk id deviceId s).2 := by
  unfold removeDisk
  rw [read_bind]
  refine lift_bind_snd h fun vm hvm => ?_
  refine lift_bind_snd h fun _ hst => ?_
  refine lift_bind_snd h fun disk hdisk => ?_
  rw [row_eq_ok] at hvm hdisk
  have hd := List.mem_of_find?_eq_some hdisk
  have hname : disk.logicalName = deviceId := by simpa using List.find?_some hdisk
  have ht := h.disks_delete disk.id
  have hagree : ∀ vm' ∈ s.vms, vm'.id ≠ id →
      s.storage.Agree (s.storage.deleteDisk disk.id) vm'.id := fun vm' _ hne =>
    ⟨rfl, rfl, h.listByVm_deleteDisk_of_ne hd hne, fun _ _ _ _ => rfl⟩
  split_ifs with hn
  · dsimp only
    refine lift_bind_snd h fun _ _ => ?_
    cases hr : removeDiskDevice id deviceId s.instances with
    | error e =>
      rw [bind_error_run (callNode_error hr)]
      exact h
    | ok instances =>
      rw [bind_ok_run (callNode_ok hr), modify_run]
      obtain ⟨⟨i, i', hi, hok, hi'⟩, hother⟩ := onInstance_eq_ok
        (fun r r' hok => by split_ifs at hok; cases hok; rfl) hr
      split_ifs at hok
      cases hok
      refine h.change ht hother hagree fun vm' hm' heq j hj => ?_
      rw [hi'] at hj
      cases hj
      refine ⟨i, hi, fun hb => hb.remove ⟨rfl, rfl, rfl⟩ (fun d hd => ?_) ⟨disk, ?_, hname⟩ ?_⟩
      · exact h.backed d (List.mem_of_mem_filter hd)
      · rwa [heq]
      · rw [heq, ← hname]
        exact h.listByVm_deleteDisk hd
  · have hcr := created_of_not_onNode hst (by simpa using hn)
    refine h.setStorage ht fun vm' hm' hsome => ?_
    refine hagree vm' hm' fun heq => ?_
    obtain rfl := h.eq_of_id hvm hm' heq
    rw [h.created vm' hm' hcr] at hsome
    cases hsome

/-! ### Commit -/

/-- A disk of a VM that is not registered is given another object. -/
lemma Mirrored.swapDisk (hd : disk ∈ s.storage.listByVm id)
    (hnone : instance? id s.instances = none) :
    Mirrored env { s with storage := { s.storage with
      disks := Rows.update VmDisk.id disk.id (fun d =>
        { d with storageObjectId := some objectId, upperStorageObjectId := none })
        s.storage.disks } } := by
  obtain ⟨hmem, hvm⟩ := List.mem_filter.1 hd
  simp only [decide_eq_true_eq] at hvm
  refine h.setStorage ⟨?_, ?_, ?_⟩ fun vm hm hsome => ⟨rfl, rfl, ?_, fun _ _ _ _ => rfl⟩
  · rw [Rows.map_update]
    · exact h.names
    · exact fun _ => rfl
  · rw [Rows.map_update]
    · exact h.ids
    · exact fun _ => rfl
  · exact Rows.forall_update.2 fun d hd => ⟨fun _ => rfl, fun _ => h.backed d hd⟩
  · have hne : id ≠ vm.id := by
      rintro rfl
      rw [hnone] at hsome
      cases hsome
    -- the row that changes is not one of this VM's
    refine Rows.filter_update fun d hdm heq => ?_
    obtain rfl := List.inj_on_of_nodup_map h.ids hdm hmem heq
    simp [hvm, hne]

lemma mirrored_runVmCommitInner (pool : StoragePool)
    (hd : disk ∈ s.storage.listByVm id) (hnew : s.newObjectId objectId = true)
    (hnone : instance? id s.instances = none) :
    Mirrored env (runVmCommitInner id disk pool objectId s).2 ∧
      (runVmCommitInner id disk pool objectId s).2.instances = s.instances := by
  -- what is left to show of each write
  let I (t : Deployment) : Prop := Mirrored env t ∧ t.instances = s.instances
  have hdelete : ∀ o, Proc.Keeps I (modify (·.deleteObject o) : Proc String Deployment Unit) :=
    fun o t ht => ⟨ht.1.deleteObject, ht.2⟩
  have himage : Proc.Keeps I (modify (·.updateVm id fun vm => { vm with imageRef := none }) :
      Proc String Deployment Unit) := by
    intro t ht
    refine ⟨ht.1.updateVm (fun _ => rfl) (fun _ => rfl) (fun _ => rfl) fun _ _ _ _ => ?_, ht.2⟩
    rw [ht.2]
    exact hnone
  unfold runVmCommitInner
  rw [read_bind, modify_bind]
  generalize resolveNewObject s.storage objectId pool.id .disk (.obj []) = config
  have hobj : Mirrored env
      (s.insertObject ⟨objectId, s!"committed-{id.text}", pool.id, .disk, config⟩) :=
    h.insertObject fun d hd _ => not_mem_objects hnew d hd
  cases getPathFromConfig config with
  | none => exact (keeps_bind (hdelete objectId) fun _ => keeps_lift (.error _)) _ ⟨hobj, rfl⟩
  | some path =>
    exact keeps_bind (keeps_each fun o _ => hdelete o) (fun _ => himage) _
      ⟨hobj.swapDisk hd hnone, rfl⟩

lemma mirrored_commit {req : CommitVmRequest}
    (hnew : s.newObjectId req.objectId = true) (hc : s.mirrors (.commit id req) = true) :
    Mirrored env (commit id req s).2 := by
  unfold commit
  rw [read_bind]
  refine lift_bind_snd h fun vm hvm => ?_
  rw [row_eq_ok] at hvm
  split_ifs with himage hstatus
  · exact h
  · exact h
  rw [updateVmStatus, modify_bind]
  have h₁ : Mirrored env (s.setStatus id .committing) := h.updateStatus (by simp)
  refine lift_bind_snd h₁ fun host hhost => ?_
  refine lift_bind_snd h₁ fun disk hdisk => ?_
  refine lift_bind_snd h₁ fun pool hpool => ?_
  -- all checks have passed, so the VM is not registered
  have hnone : instance? id s.instances = none := by
    simp only [mirrors, Bool.or_eq_true, Option.isNone_iff_eq_none] at hc
    refine hc.resolve_right fun hno => ?_
    have hsome : vm.hostId = some host := by
      unfold hostForVm at hhost
      cases hh : vm.hostId with
      | none => simp [hh] at hhost
      | some host' => simpa [hh] using hhost
    have hst : vm.status = .created ∨ vm.status = .shutdown := by
      by_contra hcon
      rw [not_or] at hcon
      simp [hcon] at hstatus
    have himg : vm.imageRef.isSome = true := by
      cases hi : vm.imageRef <;> simp [hi] at himage ⊢
    simp only [commitStarts, hvm, hsome, himg, hdisk, hpool, Except.isOk, Except.toBool,
      Option.any_some, Bool.true_and, Bool.and_true, Bool.not_eq_true', Bool.or_eq_false_iff,
      decide_eq_false_iff_not] at hno
    exact hst.elim hno.1 hno.2
  rw [bind_ok_run (outcome_run _ _), updateVmStatus, modify_bind, pure_run]
  obtain ⟨hm, hi⟩ := mirrored_runVmCommitInner h₁ pool (mem_of_findOciDisk hdisk)
    (by rw [newObjectId_setStatus]; exact hnew) hnone
  refine Mirrored.updateStatus hm fun _ => ?_
  rw [hi]
  exact hnone

end

/-! ### Create -/

section

variable (hnew : s.newVmId req.id = true)

include hnew

lemma Mirrored.insertVm {imageRef : Option String} (h : Mirrored env s) :
    Mirrored env (insertVm req status imageRef s).2 := by
  have hnone := not_registered hnew
  simp only [newVmId, Bool.and_eq_true, List.all_eq_true, decide_eq_true_eq] at hnew
  refine ⟨List.nodup_cons.2 ⟨?_, h.vmIds⟩, List.forall_mem_cons.2 ⟨rfl, h.hosted⟩, h.names, h.ids,
    h.backed, List.forall_mem_cons.2 ⟨fun _ => hnone, h.created⟩,
    List.forall_mem_cons.2 ⟨fun i hi => ?_, h.boots⟩⟩
  · simpa using hnew.1.1
  · have hsome : instance? req.id s.instances = some i := hi
    rw [hnone] at hsome
    cases hsome

/-- While a VM is being created: it is not registered, and the rows of the other VMs are as
before. -/
structure Creating (env : AppEnv) (req : NewVmRequest) (s t : Deployment) : Prop where
  mirrored : Mirrored env t
  instances : t.instances = s.instances
  disks : ∀ d ∈ t.storage.disks, d ∈ s.storage.disks ∨ d.vmId = req.id ∧ d.id = req.diskId

variable (h : Creating env req s t)

include h

lemma Creating.rootDisk (hid : t.newDiskId req.diskId = true) :
    Creating env req s (createRootDiskRecord req t).2 := by
  unfold createRootDiskRecord
  cases hr : req.rootDiskObjectId with
  | none => exact h
  | some objectId =>
    dsimp only
    let disk : VmDisk :=
      { id := req.diskId, vmId := req.id, storageObjectId := some objectId,
        logicalName := "rootfs" }
    rcases h.mirrored.insertDisk_cases disk hid rfl with ⟨e, hrun⟩ | ⟨hrun, ht⟩
    · rw [hrun]
      exact h
    · rw [hrun]
      refine ⟨h.mirrored.diskRow ht ?_, h.instances,
        List.forall_mem_cons.2 ⟨.inr ⟨rfl, rfl⟩, h.disks⟩⟩
      rw [h.instances]
      exact not_registered hnew

lemma Creating.insertObject (hobj : s.newObjectId object.id = true) :
    Creating env req s (t.insertObject object) := by
  refine ⟨h.mirrored.insertObject fun d hd hsome => ?_, h.instances, h.disks⟩
  rcases h.disks d hd with hd | ⟨hvm, -⟩
  · exact not_mem_objects hobj d hd
  · rw [h.instances, hvm, not_registered hnew] at hsome
    cases hsome

lemma Creating.setStatus :
    Mirrored env (t.setStatus req.id status) := by
  refine h.mirrored.updateStatus fun _ => ?_
  rw [h.instances]
  exact not_registered hnew

omit h in
lemma creating_insertVm (status : VmStatus) (imageRef : Option String) (h : Mirrored env s) :
    Creating env req s (insertVm req status imageRef s).2 :=
  ⟨h.insertVm hnew, rfl, fun _ hd => .inl hd⟩

omit h in
lemma mirrored_createVmInternal (h : Mirrored env s)
    (hid : s.newDiskId req.diskId = true) : Mirrored env (createVmInternal req s).2 := by
  unfold createVmInternal
  rw [read_bind]
  refine lift_bind_snd h fun _ _ => ?_
  exact ((creating_insertVm hnew _ _ h).rootDisk hnew hid).mirrored

/-- The row that the job writes last. -/
lemma Creating.imageDisk (hdisk : s.newDiskId disk.id = true) (hne : req.diskId ≠ disk.id)
    (hvm : disk.vmId = req.id)
    (hb : disk.storageObjectId.isSome = true) :
    Mirrored env ((insertDisk disk >>= fun _ => updateVmStatus req.id .created) t).2 := by
  have hid : t.newDiskId disk.id = true := by
    rw [newDiskId_iff] at hdisk ⊢
    intro hmem
    obtain ⟨d, hd, heq⟩ := List.mem_map.1 hmem
    rcases h.disks d hd with hd | ⟨-, hid⟩
    · exact hdisk (List.mem_map.2 ⟨d, hd, heq⟩)
    · exact hne (hid.symm.trans heq)
  have hnone : instance? req.id t.instances = none := by
    rw [h.instances]
    exact not_registered hnew
  rcases h.mirrored.insertDisk_cases disk hid hb with ⟨e, hrun⟩ | ⟨hrun, ht⟩
  · rw [bind_error_run hrun]
    exact h.mirrored
  · rw [bind_ok_run hrun]
    exact (h.mirrored.diskRow ht (hvm ▸ hnone)).updateStatus fun _ => hnone

/-- The job that imports an image. -/
lemma mirrored_runOverlaybdCreate {image : ImageRequest} (hdisk : s.newDiskId image.diskId = true)
    (hne : req.diskId ≠ image.diskId)
    (hobj : s.newObjectId image.objectId = true)
    (hupper : s.newObjectId image.upperId = true) :
    Mirrored env (runOverlaybdCreate pool req image t).2 := by
  unfold runOverlaybdCreate
  cases pool.config.text "url" with
  | none => exact h.setStatus hnew
  | some url =>
    dsimp only
    rw [modify_bind, read_bind]
    cases image.persistentUpperPoolId with
    | none => exact (h.insertObject hnew hobj).imageDisk hnew hdisk hne rfl rfl
    | some poolId =>
      exact ((h.insertObject hnew hobj).insertObject hnew hupper).imageDisk hnew hdisk hne rfl rfl

omit h

lemma mirrored_createVmWithImageInternal {image : ImageRequest} (h : Mirrored env s)
    (hid : s.newDiskId req.diskId = true) (hdisk : s.newDiskId image.diskId = true)
    (hne : req.diskId ≠ image.diskId)
    (hobj : s.newObjectId image.objectId = true) (hupper : s.newObjectId image.upperId = true) :
    Mirrored env (createVmWithImageInternal req image s).2 := by
  unfold createVmWithImageInternal
  rw [read_bind]
  refine lift_bind_snd h fun _ _ => ?_
  cases findOverlaybdForHost s.storage req.hostId with
  | none => exact h
  | some pool =>
    refine lift_bind_snd h fun _ _ => ?_
    obtain ⟨t, ht⟩ : ∃ t, insertVm req .pending (some image.imageRef) s = (.ok (), t) := ⟨_, rfl⟩
    have hcreating : Creating env req s t := by
      have := creating_insertVm hnew .pending (some image.imageRef) h
      rwa [ht] at this
    have hroot := hcreating.rootDisk hnew (by cases ht; exact hid)
    rw [bind_ok_run ht, bind_run]
    rcases hr : createRootDiskRecord req t with ⟨e | ⟨⟩, t'⟩
    · rw [hr] at hroot
      exact hroot.mirrored
    · rw [hr] at hroot
      exact mirrored_runOverlaybdCreate hnew hroot hdisk hne hobj hupper

end

/-- **One step** keeps definitions and rows together. -/
lemma mirrored_step {s' : Deployment} {a : LifecycleAction} (h : Mirrored env s)
    (hc : s.mirrors a = true) (hs : s.step env a = some s') : Mirrored env s' := by
  cases a with
  | create req =>
    simp only [step, Option.ite_none_right_eq_some, Bool.and_eq_true,
      Option.some.injEq] at hs
    obtain ⟨⟨hnew, hid⟩, rfl⟩ := hs
    exact mirrored_createVmInternal hnew h hid
  | createWithImage req image =>
    simp only [step, Option.ite_none_right_eq_some, Bool.and_eq_true,
      decide_eq_true_eq, Option.some.injEq] at hs
    obtain ⟨⟨⟨⟨⟨⟨⟨hnew, hid⟩, hdisk⟩, hne⟩, hobj⟩, hupper⟩, -⟩, rfl⟩ := hs
    exact mirrored_createVmWithImageInternal hnew h hid hdisk hne hobj hupper
  | start vmId =>
    cases hs
    exact (startOk_startVmInternal h _).1
  | stop vmId | forceStop vmId =>
    cases hs
    exact mirrored_stopWith h fun _ hi => mirrored_onInstance h hi
  | attachDisk vmId diskId req =>
    simp only [step, Option.ite_none_right_eq_some, Option.some.injEq] at hs
    obtain ⟨hid, rfl⟩ := hs
    exact mirrored_attachDisk h hid hc
  | removeDisk vmId deviceId =>
    cases hs
    exact mirrored_removeDisk h
  | commit vmId req =>
    simp only [step, Option.ite_none_right_eq_some, Option.some.injEq] at hs
    obtain ⟨hnew, rfl⟩ := hs
    exact mirrored_commit h hnew hc

/-- **A started VM boots the disks that the database gives it**, when every change of the disks of a
registered VM was one that reaches its definition. -/
theorem started_vm_boots_its_disks {env : AppEnv} {s s' : Deployment} {id : Uuid}
    (h : Reach (Deployment.step env) (fun s a => s.mirrors a = true) Deployment.Fresh s)
    (hs : startVmInternal env id s = (.ok (.ok ()), s')) :
    ∃ vm i req, s'.vm? id = some vm ∧ instance? id s'.instances = some i ∧ i.status = .running ∧
      buildCreateVmRequest s'.storage vm = .ok req ∧
      i.disks.Perm (definedDisks env.runtimeDir (vmConfig env req)) := by
  have hmirrored : Mirrored env s := by
    refine h.invariant (fun s hf => ?_) fun s a s' hm hc hstep => mirrored_step hm hc hstep
    obtain ⟨hvms, hdisks, hinst⟩ := hf
    exact ⟨by simp [hvms], by simp [hvms], by simp [hdisks], by simp [hdisks], by simp [hdisks],
      by simp [hvms], by simp [hvms]⟩
  have hok := startOk_startVmInternal hmirrored id
  rw [hs] at hok
  obtain ⟨hm, hrun⟩ := hok
  obtain ⟨vm, i, hvm, -, hi, hst⟩ := hrun rfl
  obtain ⟨hmem, hid⟩ := mem_of_vm? hvm
  obtain ⟨-, req, hreq, hp⟩ := hm.boots vm hmem i (hid ▸ hi)
  exact ⟨vm, i, req, hvm, hi, hst, hreq, hp⟩

end Mirrored

/-! ## Runs -/

namespace BootedDisks

def env : AppEnv := { vmRootfs := none, runtimeDir := "/run/qarax" }

def host : Uuid := ⟨"a1d0c4e2-0b7f-4c55-9f36-6a1c1f0e7b01"⟩

def vmId : Uuid := ⟨"b2e1d5f3-1c80-4d66-8a47-7b2d2a1f8c02"⟩

def localPool : StoragePool :=
  ⟨⟨"pool-local"⟩, .local, .active, .obj [("path", .str "/srv/disks")]⟩

def imagePool : StoragePool :=
  ⟨⟨"pool-images"⟩, .overlayBd, .active, .obj [("url", .str "http://registry:5000")]⟩

def blockPool : StoragePool := ⟨⟨"pool-block"⟩, .block, .active, .obj []⟩

def dataDisk : StorageObject :=
  ⟨⟨"object-data"⟩, "data", localPool.id, .disk, .obj [("path", .str "/srv/disks/data")]⟩

def otherImage : StorageObject :=
  ⟨⟨"object-image"⟩, "image", imagePool.id, .ociImage,
    .obj [("image_ref", .str "tools:1"), ("registry_url", .str "http://registry:5000")]⟩

/-- A LUN without its number. -/
def badLun : StorageObject := ⟨⟨"object-lun"⟩, "lun", blockPool.id, .disk, .obj []⟩

def site : Deployment where
  vms := []
  storage :=
    { pools := [localPool, imagePool, blockPool]
      objects := [dataDisk, otherImage, badLun]
      hostPools := [(host, localPool.id), (host, imagePool.id)]
      disks := [] }
  instances := []

def createFromImage : LifecycleAction :=
  .createWithImage ⟨vmId, ⟨"disk-root"⟩, "vm", host, none, none, some "#cloud-config"⟩
    ⟨"app:1", "app:1", .null, none, ⟨"disk-image"⟩, ⟨"object-app"⟩, ⟨"object-upper"⟩⟩

def stoppedOnce : List LifecycleAction := [createFromImage, .start vmId, .stop vmId]

structure DiskName where
  name : String
  path : Option NodePath
  deriving DecidableEq

/-- What a start boots, and what the database gives. -/
structure Boot where
  completed : Bool
  booted : Option (List DiskName)
  given : Option (List DiskName)
  deriving DecidableEq

def bootedAndGiven (actions : List LifecycleAction) : Option Boot :=
  (run (Deployment.step env) site actions).map fun s =>
    let (result, s) := startVmInternal env vmId s
    let names (disks : List DiskConfig) : List DiskName := disks.map fun d => ⟨d.id, d.path⟩
    { completed := match result with | .ok (.ok ()) => true | _ => false
      booted := (instance? vmId s.instances).map fun i => names i.disks
      given := (s.vm? vmId).bind fun vm =>
        match buildCreateVmRequest s.storage vm with
        | .ok req => some (names (definedDisks env.runtimeDir (vmConfig env req)))
        | .error _ => none }

def seed : DiskName :=
  ⟨"cidata", some (.file "/run/qarax/b2e1d5f3-1c80-4d66-8a47-7b2d2a1f8c02-cidata.img")⟩

def appImage : DiskName := ⟨"disk0", some (.mapped "app:1" "http://registry:5000" none none)⟩

end BootedDisks

open BootedDisks in
/-- A disk is attached to the stopped VM and the first one is removed: the next start boots what the
database gives. -/
theorem restarted_vm_boots_its_disks :
    ∃ s s', run (Deployment.step env) site (stoppedOnce ++
        [.attachDisk vmId ⟨"disk-data"⟩ ⟨dataDisk.id, none⟩, .removeDisk vmId "disk0"]) = some s ∧
      startVmInternal env vmId s = (.ok (.ok ()), s') ∧
      ∃ vm i req, s'.vm? vmId = some vm ∧ instance? vmId s'.instances = some i ∧
        i.status = .running ∧ buildCreateVmRequest s'.storage vm = .ok req ∧
        i.disks.Perm (definedDisks env.runtimeDir (vmConfig env req)) := by
  have hrun : (bootedAndGiven (stoppedOnce ++
      [.attachDisk vmId ⟨"disk-data"⟩ ⟨dataDisk.id, none⟩, .removeDisk vmId "disk0"])).map
        (·.completed)
        = some true ∧
      Along (Deployment.step env) (fun s a => s.mirrors a = true) site (stoppedOnce ++
        [.attachDisk vmId ⟨"disk-data"⟩ ⟨dataDisk.id, none⟩, .removeDisk vmId "disk0"]) := by
    decide +kernel
  obtain ⟨t, ht, hb⟩ := Option.map_eq_some_iff.1 hrun.1
  obtain ⟨s, hs, rfl⟩ := Option.map_eq_some_iff.1 ht
  have hreach : Reach (Deployment.step env) _ Deployment.Fresh s :=
    reach_of_run (.start ⟨rfl, rfl, rfl⟩) hrun.2 hs
  have hstart : (startVmInternal env vmId s).1 = .ok (.ok ()) := by
    dsimp only at hb
    split at hb
    · assumption
    · cases hb
  exact ⟨s, _, hs, Proc.run_of_fst hstart,
    started_vm_boots_its_disks hreach (Proc.run_of_fst hstart)⟩

open BootedDisks in
/-- **What does not reach the definition.**  A stopped VM that is committed boots its old image, an
image attached to it comes without a path, and a disk that cannot be resolved is in the database
only. -/
theorem committed_vm_boots_old_image :
    bootedAndGiven (stoppedOnce ++ [.commit vmId ⟨localPool.id, ⟨"disk-image"⟩, ⟨"object-new"⟩⟩])
      = some ⟨true, some [appImage, seed],
          some [⟨"disk0", some (.file "/srv/disks/object-new")⟩, seed]⟩ ∧
    bootedAndGiven (stoppedOnce ++ [.attachDisk vmId ⟨"disk-more"⟩ ⟨otherImage.id, none⟩])
      = some ⟨true, some [appImage, seed, ⟨"disk1", none⟩],
          some [⟨"disk1", some (.mapped "tools:1" "http://registry:5000" none none)⟩, appImage,
            seed]⟩ ∧
    bootedAndGiven (stoppedOnce ++ [.attachDisk vmId ⟨"disk-more"⟩ ⟨badLun.id, none⟩])
      = some ⟨true, some [appImage, seed], none⟩ := by
  decide +kernel

end Qarax
