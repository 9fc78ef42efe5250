import Qarax.Control.HaMonitor

/-!
# Stale copies

The marker `failed_over_from` is the only record of an instance that a failover left behind.  Two
things are expected of it: what it names is never where the VM lives, since that instance gets
killed, and no instance that was left behind goes without it.  Neither holds of the code as it is;
this module says when they do.

* `Tidy` — the VM is never on the host its marker names, but for the moment in which a failover has
  written one and not yet the other.
* `Known` — every copy left behind is the one the marker names.
-/

namespace Qarax

open Machine

/-- The row is on the host of that name. -/
def Vm.isOn (row : Vm) (name : Option String) : Bool :=
  row.hostId.any fun h => name = some h.text

variable {row : Vm}

lemma Vm.isOn_eq_false {name : Option String} :
    row.isOn name = false ↔ ∀ h, row.hostId = some h → name ≠ some h.text := by
  cases hh : row.hostId <;> simp [isOn, hh]

lemma Uuid.text_inj {a b : Uuid} : a.text = b.text ↔ a = b := by
  cases a
  cases b
  simp

/-! ## The monitor's rows -/

/-- The marker is written. -/
def FailoverPc.tagged : FailoverPc → Bool
  | .place _ _ | .activate | .launch | .revertHost | .revertStatus | .revertConfig => true
  | _ => false

/-- Marker and host may be the same. -/
def FailoverPc.between : FailoverPc → Bool
  | .place _ _ | .revertStatus | .revertConfig => true
  | _ => false

/-- The old config is about to be restored. -/
def FailoverPc.restoring : FailoverPc → Bool
  | .revertStatus | .revertConfig => true
  | _ => false

/-- What a row satisfies while the monitor is there. -/
def Monitor.RowOk (row : Vm) : Monitor → Prop
  | .cleanup host _ vm todo _ =>
    (∀ x ∈ vm :: todo, row.id = x.id → row.hostId ≠ some host) ∧
      row.isOn row.failedOverFrom = false
  | .failover host pc vm _ _ =>
    (row.id = vm.id → pc.tagged = true → row.failedOverFrom = some host.text) ∧
      (row.id = vm.id → pc.restoring = true → row.isOn vm.failedOverFrom = false) ∧
      ((row.id = vm.id → pc.between = false) → row.isOn row.failedOverFrom = false)
  | _ => row.isOn row.failedOverFrom = false

/-- What the rows the monitor has read satisfy: a candidate was not marked with the host it was
on. -/
def Monitor.ReadOk : Monitor → Prop
  | .candidates host todo _ => ∀ x ∈ todo, x.failedOverFrom ≠ some host.text
  | .failover host pc vm todo _ =>
    (∀ x ∈ vm :: todo, x.failedOverFrom ≠ some host.text) ∧
      match pc with
      | .stopOld target | .tag target _ | .place target _ => target ≠ host
      | _ => True
  | _ => True

structure Tidy (w : World) : Prop where
  nodup : (w.vms.map Vm.id).Nodup
  read : w.monitor.ReadOk
  rows : ∀ row ∈ w.vms, w.monitor.RowOk row

/-- A host is on record for a VM: as the marker of its row, as the marker of the config that a
running failover may restore, or because the VM's copy on it is being removed. -/
def World.onRecord (w : World) (id host : Uuid) : Bool :=
  w.vms.any (fun row => row.id = id && row.failedOverFrom = some host.text) ||
    match w.monitor with
    | .cleanup h _ vm todo _ => h = host && (vm :: todo).any (·.id = id)
    | .failover _ _ vm _ _ => vm.id = id && vm.failedOverFrom = some host.text
    | _ => false

/-- **Steps that keep VMs away from hosts on record for them.**  A VM is not created on the host its
config names and not migrated to a host on record for it, and no write of a failover fails that
would leave marker and host the same. -/
def World.careful (w : World) : Action → Bool
  | .createVm _ host request data => marker (w.newConfig request data) ≠ some host.text
  | .endMigration m .moved => !w.onRecord m.vmId m.target
  | .failover false =>
    match w.monitor with
    | .failover host (.place _ _) vm _ _ | .failover host .revertConfig vm _ _ =>
      w.vms.all fun row => row.id ≠ vm.id || row.hostId ≠ some host
    | .failover _ .revertHost vm _ _ =>
      w.vms.all fun row => row.id ≠ vm.id || !row.isOn vm.failedOverFrom
    | _ => true
  | _ => true

/-! ## What a step can do -/

/-- Where the monitor goes without a write or a call. -/
inductive Monitor.Goes (vms : List Vm) : Monitor → Monitor → Prop
  | list (down : List Uuid) : Goes vms .idle (.cycle down)
  | finish : Goes vms (.cycle []) .idle
  | pass {host down} : Goes vms (.cycle (host :: down)) (.cycle down)
  | copies {host down} : Goes vms (.cycle (host :: down))
      (.nextCopy host (listFailedOverFrom host vms) down)
  | candidates {host down} : Goes vms (.cycle (host :: down))
      (.candidates host (collectFailoverCandidates host vms) down)
  | done {host down} : Goes vms (.candidates host [] down) (.cycle down)
  | skip {host vm todo down} :
      Goes vms (.candidates host (vm :: todo) down) (.candidates host todo down)
  | tries {host vm todo down} :
      Goes vms (.candidates host (vm :: todo) down) (.failover host .pick vm todo down)
  | untried {host vm todo down} :
      Goes vms (.failover host .pick vm todo down) (.candidates host todo down)
  | picked {host vm todo down} {target : Uuid} (h : target ≠ host) :
      Goes vms (.failover host .pick vm todo down) (.failover host (.stopOld target) vm todo down)

/-- The host that a step sets to `Up`. -/
def Action.enables : Action → Option Uuid
  | .update host .up | .deployed host true | .init host => some host
  | _ => none

/-- **The effect of a step**: a host's status, something that no record depends on, a row, or where
the monitor stands. -/
inductive World.Effect (w : World) : Action → World → Prop
  | host (a : Action) (host : Uuid) (status : HostStatus)
      (h : status = .up → a.enables = some host) : Effect w a (w.setHost host status)
  | aside (a : Action) (reachable : List Uuid) (templates : List VmTemplate) :
      Effect w a { w with reachable, templates }
  | insert (id host : Uuid) (request : NewVm) (data : SchedulingMetadata)
      (h : w.unused id = true) : Effect w (.createVm id host request data)
        { w with vms := ⟨id, some host, .created, w.newConfig request data⟩ :: w.vms }
  | status (a : Action) (id : Uuid) (status : VmStatus) (migrations : List PlannedVmMigration) :
      Effect w a { w with vms := updateStatus id status w.vms, migrations }
  | moved (m : PlannedVmMigration) (migrations : List PlannedVmMigration) :
      Effect w (.endMigration m .moved) { w with
        vms := updateStatus m.vmId m.originalStatus (updateHostId m.vmId m.target w.vms)
        migrations }
  | goes (a : Action) {m : Monitor} (h : w.monitor.Goes w.vms m) :
      Effect w a { w with monitor := m }
  | cleanup {ok : Bool} {w' : World} (h : w.cleanupStep ok = some w') : Effect w (.cleanup ok) w'
  | failover {ok : Bool} {w' : World} (h : w.failoverStep ok = some w') : Effect w (.failover ok) w'

/-- A step of the monitor that only moves it. -/
lemma effect_goes {w : World} {a : Action} {m : Monitor} (hm : w.monitor = m) {m' : Monitor}
    (h : m.Goes w.vms m') : w.Effect a { w with monitor := m' } :=
  .goes a (hm ▸ h)

lemma effect_of_step {w w' : World} {a : Action} (hs : w.step a = some w') : w.Effect a w' := by
  cases a with
  | node host answers =>
    cases hs
    exact .aside _ _ _
  | probeFailed host | deploy host =>
    cases hs
    exact .host _ _ _ nofun
  | update host status =>
    cases hs
    exact .host _ _ _ fun h => by rw [h]; rfl
  | deployed host ok =>
    cases hs
    cases ok
    · exact .host _ _ _ nofun
    · exact .host _ _ _ fun _ => rfl
  | init host =>
    simp only [World.step] at hs
    split_ifs at hs
    cases hs
    exact .host _ _ _ fun _ => rfl
  | createTemplate id vmId =>
    obtain ⟨vm, -, hs⟩ := Option.bind_eq_some_iff.1 hs
    cases hs
    exact .aside _ _ _
  | createVm id host request data =>
    simp only [World.step] at hs
    split_ifs at hs with hok
    cases hs
    simp only [Bool.and_eq_true] at hok
    exact .insert _ _ _ _ hok.1.1
  | vmStatus id status =>
    cases hs
    exact .status _ _ _ _
  | planMigration id target =>
    obtain ⟨vm, -, hs⟩ := Option.bind_eq_some_iff.1 hs
    split_ifs at hs
    cases hs
    exact .status _ _ _ _
  | endMigration m result =>
    simp only [World.step] at hs
    split_ifs at hs with hmem hmoved
    · cases hs
      exact hmoved ▸ .moved _ _
    · cases hs
      exact .status _ _ _ _
  | listDown =>
    simp only [World.step] at hs
    split at hs <;> cases hs
    exact effect_goes ‹_› (.list _)
  | nextHost grace listed =>
    simp only [World.step] at hs
    split at hs
    · cases hs
      exact effect_goes ‹_› .finish
    · split_ifs at hs <;> cases hs
      · exact effect_goes ‹_› .copies
      · exact effect_goes ‹_› .candidates
      · exact effect_goes ‹_› .pass
    · cases hs
  | cleanup ok => exact .cleanup hs
  | candidate skip =>
    simp only [World.step] at hs
    split at hs
    · cases hs
      exact effect_goes ‹_› .done
    · split_ifs at hs <;> cases hs
      · exact effect_goes ‹_› .skip
      · exact effect_goes ‹_› .tries
    · cases hs
  | picked target =>
    simp only [World.step] at hs
    split at hs
    · split at hs
      · cases hs
        exact effect_goes ‹_› .untried
      · split_ifs at hs with hok
        cases hs
        simp only [Bool.and_eq_true, decide_eq_true_eq] at hok
        exact effect_goes ‹_› (.picked hok.1)
    · cases hs
  | failover ok => exact .failover hs

/-! ## Never on the host of the marker -/

variable {vms todo : List Vm} {host id : Uuid} {down : List Uuid} {ok : Bool} {a : Action}

section Tidy

variable {w w' : World} {m : Monitor}

/-- Statuses do not matter. -/
lemma rowOk_updateStatus (h : ∀ row ∈ vms, m.RowOk row) (id : Uuid) (status : VmStatus) :
    ∀ row ∈ updateStatus id status vms, m.RowOk row := by
  refine Rows.forall_update.2 fun row hr => ⟨fun _ => ?_, fun _ => h row hr⟩
  have hrow := h row hr
  cases m <;> exact hrow

@[simp] lemma ids_updateStatus (id : Uuid) (status : VmStatus) (vms : List Vm) :
    (updateStatus id status vms).map Vm.id = vms.map Vm.id := Rows.map_update fun _ => rfl

@[simp] lemma ids_updateHostId (id host : Uuid) (vms : List Vm) :
    (updateHostId id host vms).map Vm.id = vms.map Vm.id := Rows.map_update fun _ => rfl

@[simp] lemma ids_updateConfig (id : Uuid) (config : Json) (vms : List Vm) :
    (updateConfig id config vms).map Vm.id = vms.map Vm.id := Rows.map_update fun _ => rfl

/-- Going on to the next copy. -/
lemma rowOk_nextCopy (h : ∀ x ∈ todo, row.id = x.id → row.hostId ≠ some host)
    (hrow : row.isOn row.failedOverFrom = false) : (Monitor.nextCopy host todo down).RowOk row := by
  cases todo with
  | nil => exact hrow
  | cons vm todo => exact ⟨h, hrow⟩

variable {pc : FailoverPc} {vm : Vm}

lemma rowOk_cleanup_next {pc : CleanupPc} (h : (Monitor.cleanup host pc vm todo down).RowOk row) :
    (Monitor.nextCopy host todo down).RowOk row :=
  rowOk_nextCopy (fun x hx => h.1 x (by simp [hx])) h.2

lemma readOk_nextCopy (host : Uuid) (todo : List Vm) (down : List Uuid) :
    (Monitor.nextCopy host todo down).ReadOk := by
  cases todo <;> trivial

/-- **Cleanup** keeps the rows in order. -/
lemma tidy_cleanup (h : Tidy w) (hs : w.cleanupStep ok = some w') : Tidy w' := by
  obtain ⟨hnodup, -, hrows⟩ := h
  unfold World.cleanupStep at hs
  split at hs
  next host vm todo down hm =>
    rw [hm] at hrows
    cases hs
    exact ⟨hnodup, trivial, hrows⟩
  next host vm todo down hm =>
    rw [hm] at hrows
    split_ifs at hs
    · cases hs
      exact ⟨hnodup, trivial, hrows⟩
    · cases hs
      exact ⟨hnodup, readOk_nextCopy _ _ _, fun row hr => rowOk_cleanup_next (hrows row hr)⟩
  next host vm todo down hm =>
    rw [hm] at hrows
    have hnext : ∀ row ∈ w.vms, (Monitor.nextCopy host todo down).RowOk row :=
      fun row hr => rowOk_cleanup_next (hrows row hr)
    cases hs
    cases ok with
    | false => exact ⟨hnodup, readOk_nextCopy _ _ _, hnext⟩
    | true =>
      refine ⟨by simpa using hnodup, readOk_nextCopy _ _ _, ?_⟩
      refine Rows.forall_update.2 fun row hr => ⟨fun _ => ?_, fun _ => hnext row hr⟩
      have hlist := (hrows row hr).1
      refine rowOk_nextCopy (fun x hx => hlist x (by simp [hx])) ?_
      simp [Vm.isOn_eq_false, Vm.failedOverFrom]
  next => cases hs

/-- A VM that is not under failover. -/
lemma rowOk_failover_of_ne (hid : row.id ≠ vm.id) :
    (Monitor.failover host pc vm todo down).RowOk row ↔ row.isOn row.failedOverFrom = false := by
  constructor
  · exact fun h => h.2.2 fun heq => absurd heq hid
  · exact fun h => ⟨fun heq => absurd heq hid, fun heq => absurd heq hid, fun _ => h⟩

/-- The VM is marked with the dead host and is not on it. -/
lemma isOn_false_of_marked (hm : row.failedOverFrom = some host.text)
    (hh : row.hostId ≠ some host) :
    row.isOn row.failedOverFrom = false := by
  rw [Vm.isOn_eq_false]
  intro h hrow heq
  have htext : h.text = host.text := Option.some.inj (heq.symm.trans hm)
  rw [Uuid.text_inj.1 htext] at hrow
  exact hh hrow

/-- A condition on the rows of one VM. -/
lemma all_rows {f : Vm → Bool} :
    (vms.all fun row => row.id ≠ id || f row) = true ↔
      ∀ row ∈ vms, row.id = id → f row = true := by
  simp [or_iff_not_imp_left]

section Failover

variable (h : Tidy w) (hm : w.monitor = .failover host pc vm todo down)

include h hm

lemma Tidy.readOk : (Monitor.failover host pc vm todo down).ReadOk := hm ▸ h.read

lemma Tidy.rowOk : ∀ row ∈ w.vms, (Monitor.failover host pc vm todo down).RowOk row := hm ▸ h.rows

lemma Tidy.other (hr : row ∈ w.vms) (hid : row.id ≠ vm.id) :
    row.isOn row.failedOverFrom = false :=
  (rowOk_failover_of_ne hid).1 (h.rowOk hm row hr)

lemma Tidy.mark (ht : pc.tagged = true) (hr : row ∈ w.vms) (hid : row.id = vm.id) :
    row.failedOverFrom = some host.text := (h.rowOk hm row hr).1 hid ht

lemma Tidy.plain (hb : pc.between = false) : ∀ row ∈ w.vms, row.isOn row.failedOverFrom = false :=
  fun row hr => (h.rowOk hm row hr).2.2 fun _ => hb

/-- The failover is given up with the marker written. -/
lemma Tidy.givenUp (ht : pc.tagged = true)
    (hhost : ∀ row ∈ w.vms, row.id = vm.id → row.hostId ≠ some host) :
    ∀ row ∈ w.vms, row.isOn row.failedOverFrom = false := by
  intro row hr
  by_cases hid : row.id = vm.id
  · exact isOn_false_of_marked (h.mark hm ht hr hid) (hhost row hr hid)
  · exact h.other hm hr hid

/-- The failover is over. -/
lemma Tidy.ends (hids : w'.vms.map Vm.id = w.vms.map Vm.id)
    (hplain : ∀ row ∈ w'.vms, row.isOn row.failedOverFrom = false)
    (hm' : w'.monitor = .candidates host todo down) : Tidy w' := by
  refine ⟨hids ▸ h.nodup, ?_, ?_⟩
  · rw [hm']
    exact fun x hx => (h.readOk hm).1 x (by simp [hx])
  · rw [hm']
    exact hplain

/-- It goes on after a write to the rows of the VM. -/
lemma Tidy.goesOn {f : Vm → Vm} {pc' : FailoverPc}
    (hv : w'.vms = Rows.update Vm.id vm.id f w.vms)
    (hm' : w'.monitor = .failover host pc' vm todo down)
    (hids : w'.vms.map Vm.id = w.vms.map Vm.id)
    (hread : (Monitor.failover host pc' vm todo down).ReadOk)
    (hown : ∀ row ∈ w.vms, row.id = vm.id →
      (Monitor.failover host pc' vm todo down).RowOk (f row)) : Tidy w' := by
  refine ⟨hids ▸ h.nodup, hm' ▸ hread, ?_⟩
  rw [hv, hm']
  exact Rows.forall_update.2 fun row hr =>
    ⟨hown row hr, fun hid => (rowOk_failover_of_ne hid).2 (h.other hm hr hid)⟩

end Failover

/-- The VM is marked and about to get its old config back. -/
lemma rowOk_restoring (hid : row.id = vm.id) (hmark : row.failedOverFrom = some host.text)
    (hon : row.isOn vm.failedOverFrom = false) :
    (Monitor.failover host .revertStatus vm todo down).RowOk row :=
  ⟨fun _ _ => hmark, fun _ _ => hon,
    fun hbetween => absurd (hbetween hid) (by simp [FailoverPc.between])⟩

/-- **Failover** keeps the rows in order unless a write fails halfway. -/
lemma tidy_failover (h : Tidy w) (hc : w.careful (.failover ok) = true)
    (hs : w.failoverStep ok = some w') : Tidy w' := by
  unfold World.failoverStep at hs
  cases hm : w.monitor with
  | idle | cycle | cleanup | candidates =>
    rw [hm] at hs
    cases hs
  | failover host pc vm todo down =>
    simp only [World.careful, hm] at hc
    rw [hm] at hs
    have hread := h.readOk hm
    have hrows := h.rowOk hm
    cases pc with
    | pick => cases hs
    | stopOld target =>
      cases hs
      exact ⟨h.nodup, hread, hrows⟩
    | tag target deleted =>
      cases ok <;> cases hs
      · exact h.ends hm rfl (h.plain hm rfl) rfl
      · refine h.goesOn hm rfl rfl (by simp) hread fun row _ hid => ?_
        exact ⟨fun _ _ => by simp [Vm.failedOverFrom], fun _ hp => absurd hp Bool.false_ne_true,
          fun hbetween => absurd (hbetween hid) (by simp [FailoverPc.between])⟩
    | place target deleted =>
      cases ok <;> cases hs
      · simp only [all_rows, decide_eq_true_eq] at hc
        exact h.ends hm rfl (h.givenUp hm rfl hc) rfl
      · refine h.goesOn hm rfl rfl (by simp) ⟨hread.1, trivial⟩ fun row hr hid => ?_
        have hmark := h.mark hm rfl hr hid
        exact ⟨fun _ _ => hmark, fun _ hp => absurd hp Bool.false_ne_true,
          fun _ => isOn_false_of_marked hmark fun heq => hread.2 (Option.some.inj heq)⟩
    | activate =>
      cases ok <;> cases hs
      · exact h.ends hm rfl (h.plain hm rfl) rfl
      · exact ⟨by simpa using h.nodup, ⟨hread.1, trivial⟩, rowOk_updateStatus hrows _ _⟩
    | launch =>
      cases ok <;> cases hs
      · exact ⟨h.nodup, hread, hrows⟩
      · refine h.ends hm (by simp) ?_ rfl
        exact rowOk_updateStatus (m := .candidates host todo down) (h.plain hm rfl) _ _
    | revertHost =>
      cases ok <;> cases hs
      · refine ⟨h.nodup, ⟨hread.1, trivial⟩, fun row hr => ?_⟩
        rw [all_rows] at hc
        by_cases hid : row.id = vm.id
        · exact rowOk_restoring hid (h.mark hm rfl hr hid) (by simpa using hc row hr hid)
        · exact (rowOk_failover_of_ne hid).2 (h.other hm hr hid)
      · refine h.goesOn hm rfl rfl (by simp) ⟨hread.1, trivial⟩ fun row hr hid => ?_
        have hmark := h.mark hm rfl hr hid
        refine rowOk_restoring hid hmark (Vm.isOn_eq_false.2 ?_)
        rintro h ⟨⟩
        exact hread.1 vm (by simp)
    | revertStatus =>
      cases ok <;> cases hs
      · exact ⟨h.nodup, hread, hrows⟩
      · exact ⟨by simpa using h.nodup, hread, rowOk_updateStatus hrows _ _⟩
    | revertConfig =>
      cases ok <;> cases hs
      · simp only [all_rows, decide_eq_true_eq] at hc
        exact h.ends hm rfl (h.givenUp hm rfl hc) rfl
      · refine h.ends hm (by simp) (Rows.forall_update.2 fun row hr => ?_) rfl
        exact ⟨fun hid => (hrows row hr).2.1 hid rfl, fun hid => h.other hm hr hid⟩

/-- A migration that keeps away from hosts on record. -/
lemma rowOk_moved {target : Uuid} (hrows : ∀ row ∈ w.vms, w.monitor.RowOk row)
    (hrec : w.onRecord id target = false) :
    ∀ row ∈ updateHostId id target w.vms, w.monitor.RowOk row := by
  refine Rows.forall_update.2 fun row hr => ⟨fun hid => ?_, fun _ => hrows row hr⟩
  rw [World.onRecord, Bool.or_eq_false_iff, List.any_eq_false] at hrec
  obtain ⟨hmark, hmon⟩ := hrec
  have hrow : ({ row with hostId := some target } : Vm).isOn row.failedOverFrom = false := by
    rw [Vm.isOn_eq_false]
    rintro h ⟨⟩
    have := hmark row hr
    simpa [hid] using this
  have hold := hrows row hr
  revert hmon hold
  cases w.monitor with
  | idle | cycle | candidates => exact fun _ _ => hrow
  | cleanup host pc vm todo down =>
    intro hmon hold
    refine ⟨fun x hx hxid heq => ?_, hrow⟩
    obtain rfl : target = host := Option.some.inj heq
    simp only [decide_true, Bool.true_and] at hmon
    rw [List.any_eq_false] at hmon
    exact hmon x hx (by simpa using hxid.symm.trans hid)
  | failover host pc vm todo down =>
    intro hmon hold
    refine ⟨hold.1, fun hvm _ => ?_, fun _ => hrow⟩
    rw [Vm.isOn_eq_false]
    rintro h ⟨⟩
    have hid' : vm.id = id := hvm.symm.trans hid
    simpa [hid'] using hmon

/-- A new row has an id the monitor does not know. -/
lemma rowOk_unused (hnew : w.unused row.id = true) (hrow : row.isOn row.failedOverFrom = false) :
    w.monitor.RowOk row := by
  rw [World.unused, Bool.and_eq_true] at hnew
  have hmon := hnew.2
  revert hmon
  cases w.monitor with
  | idle | cycle | candidates => exact fun _ => hrow
  | cleanup host pc vm todo down =>
    intro hmon
    rw [List.all_eq_true] at hmon
    exact ⟨fun x hx heq => absurd heq.symm (by simpa using hmon x hx), hrow⟩
  | failover host pc vm todo down =>
    intro hmon
    rw [List.all_eq_true] at hmon
    have hne : row.id ≠ vm.id := fun heq => by simpa [heq] using hmon vm (by simp)
    exact (rowOk_failover_of_ne hne).2 hrow

/-- The rows a cleanup reads are marked with the host, so they are not on it. -/
lemma Tidy.readStale (h : Tidy w) (hplain : ∀ row ∈ w.vms, row.isOn row.failedOverFrom = false)
    {x : Vm} (hx : x ∈ listFailedOverFrom host w.vms) (hr : row ∈ w.vms) (hid : row.id = x.id) :
    row.hostId ≠ some host := by
  obtain ⟨hmem, hmark⟩ := List.mem_filter.1 hx
  obtain rfl := List.inj_on_of_nodup_map h.nodup hr hmem hid
  exact fun heq => (Vm.isOn_eq_false.1 (hplain row hr)) host heq (by simpa using hmark)

/-- The monitor goes on. -/
lemma tidy_goes (h : Tidy w) (hm : w.monitor.Goes w.vms m) : Tidy { w with monitor := m } := by
  have hh := h
  obtain ⟨hnodup, hread, hrows⟩ := h
  generalize w.monitor = m₀ at hm hread hrows
  cases hm with
  | list | finish | pass | done => exact ⟨hnodup, trivial, hrows⟩
  | copies =>
    exact ⟨hnodup, readOk_nextCopy _ _ _, fun row hr =>
      rowOk_nextCopy (fun x hx hid => hh.readStale hrows hx hr hid) (hrows row hr)⟩
  | @candidates host down =>
    refine ⟨hnodup, fun x hx => ?_, hrows⟩
    obtain ⟨hx, hhost⟩ := List.mem_filter.1 (List.mem_of_mem_filter hx)
    exact Vm.isOn_eq_false.1 (hrows x hx) host (by simpa using hhost)
  | skip => exact ⟨hnodup, fun x hx => hread x (by simp [hx]), hrows⟩
  | tries =>
    exact ⟨hnodup, ⟨hread, trivial⟩, fun row hr => ⟨fun _ hp => absurd hp Bool.false_ne_true,
      fun _ hp => absurd hp Bool.false_ne_true, fun _ => hrows row hr⟩⟩
  | untried =>
    exact ⟨hnodup, fun x hx => hread.1 x (by simp [hx]),
      fun row hr => (hrows row hr).2.2 fun _ => rfl⟩
  | picked hne => exact ⟨hnodup, ⟨hread.1, hne⟩, hrows⟩

/-- Ids of new rows are new. -/
lemma nodup_insert (h : (w.vms.map Vm.id).Nodup) (hnew : w.unused row.id = true) :
    ((row :: w.vms).map Vm.id).Nodup := by
  refine List.nodup_cons.2 ⟨fun hmem => ?_, h⟩
  obtain ⟨r, hr, heq⟩ := List.mem_map.1 hmem
  simp only [World.unused, Bool.and_eq_true, List.all_eq_true] at hnew
  exact absurd heq (by simpa using hnew.1.1 r hr)

/-- A VM is created. -/
lemma tidy_insert (h : Tidy w) (hnew : w.unused row.id = true)
    (hrow : row.isOn row.failedOverFrom = false) : Tidy { w with vms := row :: w.vms } :=
  ⟨nodup_insert h.nodup hnew, h.read,
    List.forall_mem_cons.2 ⟨rowOk_unused (w := w) hnew hrow, h.rows⟩⟩

/-- **Every careful step keeps the rows in order.** -/
lemma tidy_step (h : Tidy w) (hc : w.careful a = true) (hs : w.step a = some w') : Tidy w' := by
  cases effect_of_step hs with
  | host | aside => exact ⟨h.nodup, h.read, h.rows⟩
  | insert id host request data hnew =>
    refine tidy_insert h hnew (Vm.isOn_eq_false.2 ?_)
    rintro host ⟨⟩
    exact of_decide_eq_true hc
  | status => exact ⟨by simpa using h.nodup, h.read, rowOk_updateStatus h.rows _ _⟩
  | moved =>
    exact ⟨by simpa using h.nodup, h.read,
      rowOk_updateStatus (rowOk_moved h.rows (by simpa [World.careful] using hc)) _ _⟩
  | goes _ hm => exact tidy_goes h hm
  | cleanup hs => exact tidy_cleanup h hs
  | failover hs => exact tidy_failover h hc hs

end Tidy

/-- **Cleanup never kills the live VM** when all steps are careful.  While the monitor is at a
`force_stop_vm` or a `delete_vm` on a host, the VM's row names another host. -/
theorem cleanup_spares_live_vm {w : World}
    (h : Reach World.step (fun w a => w.careful a = true) World.Fresh w)
    {host : Uuid} {pc : CleanupPc} {vm : Vm} {todo : List Vm} {down : List Uuid}
    (hm : w.monitor = .cleanup host pc vm todo down) :
    ∀ row ∈ w.vms, row.id = vm.id → row.hostId ≠ some host := by
  have tidy : Tidy w := by
    refine h.invariant (fun w hw => ?_) fun w a w' hw hc hs => tidy_step hw hc hs
    obtain ⟨hvms, -, -, hmon, -⟩ := hw
    exact ⟨by simp [hvms], by rw [hmon]; trivial, by simp [hvms]⟩
  intro row hr hid
  have hrow := tidy.rows row hr
  rw [hm] at hrow
  exact hrow.1 vm (by simp) hid

/-! Two hosts and a VM that is failed over from the first to the second. -/

def hostA : Uuid := ⟨"0a6b1c2d-3e4f-4a5b-8c6d-7e8f9a0b1c2d"⟩

def hostB : Uuid := ⟨"1b7c2d3e-4f5a-4b6c-9d7e-8f9a0b1c2d3e"⟩

def theVm : Uuid := ⟨"2c8d3e4f-5a6b-4c7d-ae8f-9a0b1c2d3e4f"⟩

def twoHosts : World where
  hosts := [⟨hostA, .up⟩, ⟨hostB, .up⟩]
  vms := []
  templates := []
  migrations := []
  reachable := [hostB]
  monitor := .idle
  copies := []

/-- The VM is created on the first host and runs; the host goes down, and the VM is started on the
second one. -/
def failedOver : List Action :=
  [.createVm theVm hostA { haEnabled := some true } { architecture := "x86_64" },
    .vmStatus theVm .running, .probeFailed hostA, .listDown, .nextHost true true, .candidate false,
    .picked (some hostB), .failover false, .failover true, .failover true, .failover true,
    .failover true, .candidate true, .nextHost true true, .vmStatus theVm .running]

/-- The first host answers again and is cleaned up. -/
def recovered : List Action := [.node hostA true, .listDown, .nextHost true true]

/-- The monitor is about to stop the VM on the host, and this is what the row says. -/
def World.about (w : World) : Option (Uuid × Uuid × List (Option Uuid)) :=
  match w.monitor with
  | .cleanup host .forceStop vm _ _ =>
    some (host, vm.id, (w.vms.filter (·.id = vm.id)).map (·.hostId))
  | _ => none

theorem recovered_cleanup_spares :
    ∃ w, run World.step twoHosts (failedOver ++ recovered) = some w ∧
      w.about = some (hostA, theVm, [some hostB]) ∧
      ∀ row ∈ w.vms, row.id = theVm → row.hostId ≠ some hostA := by
  have hfresh : World.Fresh twoHosts := ⟨rfl, rfl, rfl, rfl, rfl⟩
  obtain ⟨w, hw, habout, hreach⟩ : ∃ w, run World.step twoHosts (failedOver ++ recovered) = some w ∧
      w.about = some (hostA, theVm, [some hostB]) ∧
      Reach World.step (fun w a => w.careful a = true) World.Fresh w :=
    exists_reach hfresh (by decide +kernel)
  refine ⟨w, hw, habout, ?_⟩
  unfold World.about at habout
  split at habout
  next host vm todo down hm =>
    simp only [Option.some.injEq, Prod.mk.injEq] at habout
    obtain ⟨rfl, hid, -⟩ := habout
    rw [← hid]
    exact cleanup_spares_live_vm hreach hm
  next => cases habout

/-- The operator enables the first host again before it is cleaned up, the VM is migrated back, and
one probe of the host fails: the copy that is killed is the only one. -/
theorem migrated_back_is_killed :
    (run World.step twoHosts (failedOver ++
      [.node hostA true, .update hostA .up, .planMigration theVm hostA,
        .endMigration ⟨theVm, hostA, .running⟩ .moved, .probeFailed hostA, .listDown,
        .nextHost true true])).bind World.about = some (hostA, theVm, [some hostA]) := by
  decide +kernel

/-! ## No copy is forgotten -/

/-- **Every copy left behind is the one its VM is marked with.** -/
def World.Known (w : World) : Prop :=
  ∀ c ∈ w.copies, ∀ row ∈ w.vms, row.id = c.1 → row.failedOverFrom = some c.2.text

/-- The rows of VMs whose copies are being removed, or that are being failed over. -/
def World.Marked (w : World) : Prop :=
  match w.monitor with
  | .cleanup host pc vm todo _ =>
    ((vm :: todo).map Vm.id).Nodup ∧
      (∀ x ∈ vm :: todo, ∀ row ∈ w.vms, row.id = x.id → row.failedOverFrom = some host.text) ∧
      (pc = .clear → (vm.id, host) ∉ w.copies)
  | .failover host pc vm _ _ =>
    (pc.tagged = true → ∀ row ∈ w.vms, row.id = vm.id → row.failedOverFrom = some host.text) ∧
      (pc.restoring = true → (vm.id, host) ∉ w.copies)
  | _ => True

structure Recorded (w : World) : Prop where
  nodup : (w.vms.map Vm.id).Nodup
  known : w.Known
  marked : w.Marked

/-- **Steps that do not drop a record.**  A VM is marked anew only when no copy of it is left on a
third host; when a failover that left a copy behind is undone, the host is written back; and a host
is set to `Up` only when no row is marked with it. -/
def World.keepsRecords (w : World) : Action → Bool
  | .failover ok =>
    match w.monitor with
    | .failover host (.tag _ _) vm _ _ =>
      !ok || w.copies.all fun c => c.1 ≠ vm.id || c.2 = host
    | .failover host .revertHost vm _ _ => ok || !w.copies.contains (vm.id, host)
    | _ => true
  | .update host status => status ≠ .up || (listFailedOverFrom host w.vms).isEmpty
  | .deployed host ok => !ok || (listFailedOverFrom host w.vms).isEmpty
  | .init host => (listFailedOverFrom host w.vms).isEmpty
  | _ => true

section Recorded

variable {w w' : World}

/-- What records are about. -/
def Vm.tag (row : Vm) : Uuid × Option String := (row.id, row.failedOverFrom)

variable {vms' : List Vm} {h : Uuid}

lemma exists_tag (h : vms'.map Vm.tag = vms.map Vm.tag) (hr : row ∈ vms') :
    ∃ r ∈ vms, r.id = row.id ∧ r.failedOverFrom = row.failedOverFrom := by
  have hmem : row.tag ∈ vms.map Vm.tag := h ▸ List.mem_map_of_mem hr
  obtain ⟨r, hr, heq⟩ := List.mem_map.1 hmem
  exact ⟨r, hr, (Prod.mk.inj heq).1, (Prod.mk.inj heq).2⟩

lemma marked_of_tags (h : vms'.map Vm.tag = vms.map Vm.tag)
    (hm : ∀ row ∈ vms, row.id = id → row.failedOverFrom = some host.text) :
    ∀ row ∈ vms', row.id = id → row.failedOverFrom = some host.text := by
  intro row hr hid
  obtain ⟨r, hrow, hrid, hmark⟩ := exists_tag h hr
  rw [← hmark]
  exact hm r hrow (hrid.trans hid)

lemma ids_of_tags (h : vms'.map Vm.tag = vms.map Vm.tag) :
    vms'.map Vm.id = vms.map Vm.id := by
  have := congrArg (List.map Prod.fst) h
  simpa [Function.comp_def, Vm.tag] using this

lemma tags_updateStatus (id : Uuid) (status : VmStatus) (vms : List Vm) :
    (updateStatus id status vms).map Vm.tag = vms.map Vm.tag := Rows.map_update fun _ => rfl

lemma tags_updateHostId (id host : Uuid) (vms : List Vm) :
    (updateHostId id host vms).map Vm.tag = vms.map Vm.tag := Rows.map_update fun _ => rfl

/-- Markers stay, and copies only go. -/
lemma Recorded.writes (h : Recorded w) (hv : w'.vms.map Vm.tag = w.vms.map Vm.tag)
    (hc : w'.copies.Sublist w.copies) (hm : w'.Marked) : Recorded w' :=
  ⟨by rw [ids_of_tags hv]; exact h.nodup,
    fun c hmem => marked_of_tags hv (h.known c (hc.subset hmem)), hm⟩

/-- Steps of others that touch neither markers nor copies. -/
lemma Recorded.congr (h : Recorded w) (hv : w'.vms.map Vm.tag = w.vms.map Vm.tag)
    (hc : w'.copies = w.copies) (hm : w'.monitor = w.monitor) : Recorded w' := by
  refine h.writes hv (hc ▸ .refl _) ?_
  have hmarked := h.marked
  unfold World.Marked at hmarked ⊢
  rw [hm, hc]
  cases hmon : w.monitor with
  | cleanup host pc vm todo down =>
    rw [hmon] at hmarked
    exact ⟨hmarked.1, fun x hx => marked_of_tags hv (hmarked.2.1 x hx), hmarked.2.2⟩
  | failover host pc vm todo down =>
    rw [hmon] at hmarked
    exact ⟨fun hp => marked_of_tags hv (hmarked.1 hp), hmarked.2⟩
  | idle | cycle | candidates => trivial

/-- The rows marked with a host have different ids. -/
lemma nodup_listFailedOverFrom (h : (w.vms.map Vm.id).Nodup) (host : Uuid) :
    ((listFailedOverFrom host w.vms).map Vm.id).Nodup :=
  h.sublist (List.filter_sublist.map _)

lemma marked_nextCopy (hm : w.monitor = .nextCopy host todo down) (hn : (todo.map Vm.id).Nodup)
    (h : ∀ x ∈ todo, ∀ row ∈ w.vms, row.id = x.id → row.failedOverFrom = some host.text) :
    w.Marked := by
  unfold World.Marked
  rw [hm]
  cases todo with
  | nil => trivial
  | cons vm todo => exact ⟨hn, h, fun hpc => by cases hpc⟩

/-- Clearing or replacing the marker of a VM of which no copy is left. -/
lemma World.Known.updateConfig {config : Json} (h : w.Known)
    (hnone : ∀ c ∈ w.copies, ∀ row ∈ w.vms, row.id = id → c.1 = id → marker config = some c.2.text)
    (hc : w'.copies = w.copies) (hv : w'.vms = Qarax.updateConfig id config w.vms) : w'.Known := by
  intro c hmem
  rw [hc] at hmem
  rw [hv]
  refine Rows.forall_update.2 fun row hr => ⟨fun hid hrow => ?_, fun _ => h c hmem row hr⟩
  exact hnone c hmem row hr hid (hrow.symm.trans hid)

/-- A VM marked with a host that no copy is left on has none anywhere. -/
lemma World.Known.no_copy (h : w.Known) (hr : row ∈ w.vms) (hid : row.id = id)
    (hmark : row.failedOverFrom = some host.text) (hgone : (id, host) ∉ w.copies) :
    ∀ c ∈ w.copies, c.1 ≠ id := by
  rintro ⟨v, g⟩ hc rfl
  have hg := h _ hc row hr hid
  have heq : g = host := Uuid.text_inj.1 (Option.some.inj (hg.symm.trans hmark))
  exact hgone (heq ▸ hc)

lemma recorded_cleanup (h : Recorded w) (hs : w.cleanupStep ok = some w') : Recorded w' := by
  have hmarked := h.marked
  unfold World.cleanupStep at hs
  unfold World.Marked at hmarked
  split at hs
  next host vm todo down hm =>
    rw [hm] at hmarked
    cases hs
    exact h.writes rfl (.refl _) ⟨hmarked.1, hmarked.2.1, nofun⟩
  next host vm todo down hm =>
    rw [hm] at hmarked
    obtain ⟨hids, hrows, -⟩ := hmarked
    cases ok <;> cases hs
    · refine h.writes rfl (.refl _) (marked_nextCopy rfl (List.nodup_cons.1 hids).2 ?_)
      exact fun x hx => hrows x (by simp [hx])
    · exact h.writes rfl List.filter_sublist ⟨hids, hrows, by simp⟩
  next host vm todo down hm =>
    rw [hm] at hmarked
    obtain ⟨hids, hrows, hgone⟩ := hmarked
    obtain ⟨hvm, hids⟩ := List.nodup_cons.1 hids
    have hnext : ∀ x ∈ todo, ∀ row ∈ w.vms, row.id = x.id →
        row.failedOverFrom = some host.text := fun x hx => hrows x (by simp [hx])
    cases ok <;> cases hs
    · exact h.writes rfl (.refl _) (marked_nextCopy rfl hids hnext)
    · refine ⟨by simpa using h.nodup, ?_, marked_nextCopy rfl hids fun x hx => ?_⟩
      · refine h.known.updateConfig (fun c hc row hr hid hcid => ?_) rfl rfl
        exact absurd hcid (h.known.no_copy hr hid (hrows vm (by simp) row hr hid) (hgone rfl) c hc)
      · refine Rows.forall_update.2 fun row hr => ⟨fun hid hxid => ?_, fun _ => hnext x hx row hr⟩
        exact absurd (List.mem_map.2 ⟨x, hx, hxid.symm.trans hid⟩) hvm
  next => cases hs

section Failover

variable {vm : Vm} {target : Uuid} {deleted : Bool}

/-- The marker is written, which may only take the place of its own. -/
lemma recorded_tag (h : Recorded w) (hc : ∀ c ∈ w.copies, c.1 = vm.id → c.2 = host) :
    Recorded { w with
      vms := updateConfig vm.id (setFailedOverFrom vm.config (some host)) w.vms
      monitor := .failover host (.place target deleted) vm todo down } := by
  have hmark := marker_setFailedOverFrom_some vm.config host
  refine ⟨by simpa using h.nodup, ?_, fun _ => ?_, nofun⟩
  · refine h.known.updateConfig (fun c hmem row hr hid hcid => ?_) rfl rfl
    rw [hc c hmem hcid]
    exact hmark
  · exact Rows.forall_update.2 fun row _ => ⟨fun _ _ => hmark, fun hid heq => absurd heq hid⟩

/-- The VM gets another host, and may leave a copy on the one it is marked with. -/
lemma recorded_place (h : Recorded w) {copies : List (Uuid × Uuid)}
    (hrows : ∀ row ∈ w.vms, row.id = vm.id → row.failedOverFrom = some host.text)
    (hcopies : ∀ c ∈ copies, c ∈ w.copies ∨ c = (vm.id, host)) :
    Recorded { w with
      vms := updateHostId vm.id target w.vms
      copies
      monitor := .failover host .activate vm todo down } := by
  have htags := tags_updateHostId vm.id target w.vms
  have hrows' := marked_of_tags htags hrows
  refine ⟨by simpa using h.nodup, fun c hmem row hr hid => ?_, fun _ => hrows', nofun⟩
  rcases hcopies c hmem with hold | rfl
  · exact marked_of_tags htags (h.known c hold) row hr hid
  · exact hrows' row hr hid

lemma recorded_failover (h : Recorded w) (hc : w.keepsRecords (.failover ok) = true)
    (hs : w.failoverStep ok = some w') : Recorded w' := by
  have hmarked := h.marked
  unfold World.failoverStep at hs
  unfold World.Marked at hmarked
  cases hm : w.monitor with
  | idle | cycle | cleanup | candidates =>
    rw [hm] at hs
    cases hs
  | failover host pc vm todo down =>
    simp only [World.keepsRecords, hm] at hc
    rw [hm] at hs hmarked
    have hover : Recorded { w with monitor := .candidates host todo down } :=
      ⟨h.nodup, h.known, trivial⟩
    cases pc with
    | pick => cases hs
    | stopOld target =>
      cases ok <;> cases hs
      · exact h.writes rfl (.refl _) ⟨nofun, nofun⟩
      · exact h.writes rfl List.filter_sublist ⟨nofun, nofun⟩
    | tag target deleted =>
      cases ok <;> cases hs
      · exact hover
      · refine recorded_tag h fun c hmem hcid => ?_
        simp only [Bool.not_true, Bool.false_or, List.all_eq_true] at hc
        simpa [hcid] using hc c hmem
    | place target deleted =>
      cases ok <;> cases hs
      · exact hover
      · refine recorded_place h (hmarked.1 rfl) fun c hmem => ?_
        split_ifs at hmem
        · exact .inl hmem
        · exact (List.mem_insert_iff.1 hmem).symm
    | activate =>
      cases ok <;> cases hs
      · exact hover
      · have htags := tags_updateStatus vm.id .created w.vms
        exact h.writes htags (.refl _) ⟨fun _ => marked_of_tags htags (hmarked.1 rfl), nofun⟩
    | launch =>
      cases ok <;> cases hs
      · exact h.writes rfl (.refl _) ⟨fun _ => hmarked.1 rfl, nofun⟩
      · exact h.writes (tags_updateStatus _ _ _) (.refl _) trivial
    | revertHost =>
      cases ok <;> cases hs
      · refine h.writes rfl (.refl _) ⟨fun _ => hmarked.1 rfl, fun _ => ?_⟩
        simpa using hc
      · have htags := tags_updateHostId vm.id host w.vms
        exact h.writes htags List.filter_sublist
          ⟨fun _ => marked_of_tags htags (hmarked.1 rfl), fun _ => by simp⟩
    | revertStatus =>
      cases ok <;> cases hs
      · exact h.writes rfl (.refl _) hmarked
      · have htags := tags_updateStatus vm.id vm.status w.vms
        exact h.writes htags (.refl _)
          ⟨fun _ => marked_of_tags htags (hmarked.1 rfl), hmarked.2⟩
    | revertConfig =>
      cases ok <;> cases hs
      · exact hover
      · refine ⟨by simpa using h.nodup, ?_, trivial⟩
        refine h.known.updateConfig (fun c hmem row hr hid hcid => ?_) rfl rfl
        exact absurd hcid (h.known.no_copy hr hid (hmarked.1 rfl row hr hid) (hmarked.2 rfl) c hmem)

end Failover

/-- The monitor goes on. -/
lemma recorded_goes {m : Monitor} (h : Recorded w) (hm : w.monitor.Goes w.vms m) :
    Recorded { w with monitor := m } := by
  obtain ⟨hnodup, hknown, -⟩ := h
  generalize w.monitor = m₀ at hm
  cases hm with
  | @copies host down =>
    refine ⟨hnodup, hknown, marked_nextCopy rfl (nodup_listFailedOverFrom hnodup host) ?_⟩
    intro x hx row hr hid
    obtain ⟨hmem, hmark⟩ := List.mem_filter.1 hx
    rw [List.inj_on_of_nodup_map hnodup hr hmem hid]
    exact of_decide_eq_true hmark
  | tries | picked => exact ⟨hnodup, hknown, nofun, nofun⟩
  | _ => exact ⟨hnodup, hknown, trivial⟩

/-- A VM is created, of which there is no copy and which the monitor has not read. -/
lemma recorded_insert (h : Recorded w) (hnew : w.unused row.id = true) :
    Recorded { w with vms := row :: w.vms } := by
  have hids := nodup_insert h.nodup hnew
  obtain ⟨-, hknown, hmarked⟩ := h
  simp only [World.unused, Bool.and_eq_true, List.all_eq_true] at hnew
  obtain ⟨⟨-, hcopies⟩, hmon⟩ := hnew
  refine ⟨hids, fun c hcm => List.forall_mem_cons.2 ⟨fun hid => ?_, hknown c hcm⟩, ?_⟩
  · exact absurd hid.symm (by simpa using hcopies c hcm)
  · unfold World.Marked at hmarked ⊢
    cases hm : w.monitor with
    | cleanup h pc vm todo down =>
      rw [hm] at hmarked hmon
      refine ⟨hmarked.1, fun x hx => List.forall_mem_cons.2 ⟨fun hid => ?_, hmarked.2.1 x hx⟩,
        hmarked.2.2⟩
      exact absurd hid.symm (by simpa using List.all_eq_true.1 hmon x hx)
    | failover h pc vm todo down =>
      rw [hm] at hmarked hmon
      refine ⟨fun hp => List.forall_mem_cons.2 ⟨fun hid => ?_, hmarked.1 hp⟩, hmarked.2⟩
      exact absurd hid.symm (by simpa using List.all_eq_true.1 hmon vm (by simp))
    | idle | cycle | candidates => trivial

/-- **Every step that drops no record keeps the records complete.** -/
lemma recorded_step (h : Recorded w) (hc : w.keepsRecords a = true) (hs : w.step a = some w') :
    Recorded w' := by
  cases effect_of_step hs with
  | host | aside => exact ⟨h.nodup, h.known, h.marked⟩
  | insert id host request data hnew => exact recorded_insert h hnew
  | status => exact h.congr (tags_updateStatus _ _ _) rfl rfl
  | moved => exact h.congr ((tags_updateStatus _ _ _).trans (tags_updateHostId _ _ _)) rfl rfl
  | goes _ hm => exact recorded_goes h hm
  | cleanup hs => exact recorded_cleanup h hs
  | failover hs => exact recorded_failover h hc hs

lemma keepsRecords_enables (hc : w.keepsRecords a = true) (ha : a.enables = some host) :
    (listFailedOverFrom host w.vms).isEmpty = true := by
  unfold Action.enables at ha
  split at ha <;> cases ha <;> simpa [World.keepsRecords] using hc

/-- Hosts whose status a step does not set to `Up` do not become `Up`. -/
lemma hostIs_setHost {status : HostStatus} (hbefore : w.hostIs h .up = false)
    (hafter : (w.setHost host status).hostIs h .up = true) : h = host ∧ status = .up := by
  simp only [World.hostIs, World.setHost, List.any_eq_true, Bool.and_eq_true,
    decide_eq_true_eq] at hafter
  obtain ⟨x, hx, hid, hup⟩ := hafter
  rcases Rows.mem_update.1 hx with ⟨x₀, hx₀, hk, rfl⟩ | ⟨hx, -⟩
  · exact ⟨hid.symm.trans hk, hup⟩
  · simp only [World.hostIs, List.any_eq_false, Bool.and_eq_true, decide_eq_true_eq] at hbefore
    exact absurd ⟨hid, hup⟩ (hbefore x hx)

/-- The monitor writes no host. -/
lemma hosts_cleanupStep (hs : w.cleanupStep ok = some w') : w'.hosts = w.hosts := by
  unfold World.cleanupStep at hs
  split at hs
  · cases hs
    rfl
  · split_ifs at hs <;> cases hs <;> rfl
  · cases hs
    rfl
  · cases hs

lemma hosts_failoverStep (hs : w.failoverStep ok = some w') : w'.hosts = w.hosts := by
  unfold World.failoverStep at hs
  cases ok <;> split at hs <;> cases hs <;> rfl

/-- A host that becomes `Up` in a step that drops no record is named by no row. -/
lemma unmarked_of_becomes_up (hc : w.keepsRecords a = true) (hs : w.step a = some w')
    (hbefore : w.hostIs h .up = false) (hafter : w'.hostIs h .up = true) :
    ∀ row ∈ w.vms, row.failedOverFrom ≠ some h.text := by
  have same : w'.hosts = w.hosts → ∀ row ∈ w.vms, row.failedOverFrom ≠ some h.text := by
    intro heq
    rw [World.hostIs, heq] at hafter
    exact absurd hafter (by rw [← World.hostIs, hbefore]; simp)
  cases effect_of_step hs with
  | host _ host status hen =>
    obtain ⟨rfl, hup⟩ := hostIs_setHost hbefore hafter
    have hempty : (listFailedOverFrom h w.vms).isEmpty = true := keepsRecords_enables hc (hen hup)
    intro row hr hmark
    have hmem : row ∈ listFailedOverFrom h w.vms := List.mem_filter.2 ⟨hr, by simpa using hmark⟩
    rw [List.isEmpty_iff.1 hempty] at hmem
    cases hmem
  | cleanup hs => exact same (hosts_cleanupStep hs)
  | failover hs => exact same (hosts_failoverStep hs)
  | _ => exact same rfl

end Recorded

/-- **Copies stay known, and hosts come back clean**, when no step drops a record: a copy that a
failover left on another host than the VM's own is the one its config names, and when a host becomes
`Up`, no VM has a copy left on it. -/
theorem stale_copies_stay_known {w : World}
    (h : Reach World.step (fun w a => w.keepsRecords a = true) World.Fresh w) :
    (∀ c ∈ w.copies, ∀ row ∈ w.vms, row.id = c.1 → row.hostId ≠ some c.2 →
      row.failedOverFrom = some c.2.text) ∧
    ∀ a w' host, w.keepsRecords a = true → w.step a = some w' → w.hostIs host .up = false →
      w'.hostIs host .up = true → ∀ row ∈ w.vms, (row.id, host) ∉ w.copies := by
  have recorded : Recorded w := by
    refine h.invariant (fun w hw => ?_) fun w a w' hw hc hs => recorded_step hw hc hs
    obtain ⟨hvms, -, -, hmon, hcopies⟩ := hw
    refine ⟨by simp [hvms], by simp [World.Known, hcopies], ?_⟩
    unfold World.Marked
    rw [hmon]
    trivial
  refine ⟨fun c hc row hr hid _ => recorded.known c hc row hr hid, ?_⟩
  intro a w' host hc hs hbefore hafter row hr hcopy
  exact unmarked_of_becomes_up hc hs hbefore hafter row hr (recorded.known _ hcopy row hr rfl)

theorem failedOver_copy_known :
    ∃ w, run World.step twoHosts failedOver = some w ∧ w.copies = [(theVm, hostA)] ∧
      ∀ row ∈ w.vms, row.id = theVm → row.hostId ≠ some hostA →
        row.failedOverFrom = some hostA.text := by
  refine (exists_reach ⟨rfl, rfl, rfl, rfl, rfl⟩ ?_).imp fun w h =>
    ⟨h.1, h.2.1, (stale_copies_stay_known h.2.2).1 (theVm, hostA) (by simp [h.2.1])⟩
  decide +kernel

/-! A third host: the VM is failed over twice, and the second marker takes the place of the
first. -/

def hostC : Uuid := ⟨"3d9e4f5a-6b7c-4d8e-bf9a-0b1c2d3e4f5a"⟩

def threeHosts : World :=
  { twoHosts with hosts := ⟨hostC, .up⟩ :: twoHosts.hosts, reachable := [hostB, hostC] }

def failedOverAgain : List Action :=
  failedOver ++ [.node hostB false, .probeFailed hostB, .listDown, .nextHost false true,
    .nextHost true true, .candidate false, .picked (some hostC), .failover false, .failover true,
    .failover true, .failover true, .failover true]

/-- The copy on the first host is on no record any more, and after the first failover nothing kept
the first host from being enabled with a copy on it. -/
theorem second_failover_forgets :
    (run World.step threeHosts failedOverAgain).map (fun w =>
        (w.copies, w.vms.map fun row => (row.id, row.hostId, row.failedOverFrom)))
      = some ([(theVm, hostB), (theVm, hostA)], [(theVm, some hostC, some hostB.text)]) ∧
    (run World.step twoHosts (failedOver ++ [.update hostA .up])).map (fun w =>
        (w.hostIs hostA .up, w.copies, w.vms.map fun row => (row.id, row.failedOverFrom)))
      = some (true, [(theVm, hostA)], [(theVm, some hostA.text)]) := by
  constructor <;> decide +kernel

end Qarax
