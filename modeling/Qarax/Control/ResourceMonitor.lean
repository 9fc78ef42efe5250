import Qarax.Core.Interleave
import Qarax.Control.Vms

/-!
# Probing hosts

`resource_monitor.rs` lists the hosts that are up or in maintenance, asks their nodes, and writes
`Down` for a host that does not answer.  It decides by the row it listed, so that what an operator
did to the host while the node was asked is not looked at.

* `monitorNext`, `operatorNext` — the monitor, and the handlers that write a status.
* `undisturbed` — no other status than `Up` is written to a host while a probe of it that was listed
  as `Up` is on its way.
* `downs_up` — then the monitor only ever takes down hosts that are up.

`ProbeDb.downs` is not in the source: the status a host had when the monitor wrote `Down`.
-/

namespace Qarax

namespace ResourceMonitor

open Interleave Machine

structure ProbeDb where
  hosts : List Host
  downs : List HostStatus
  deriving DecidableEq

namespace ProbeDb

def statusOf (db : ProbeDb) (id : Uuid) : Option HostStatus :=
  (db.hosts.find? (·.id = id)).map (·.status)

def updateStatus (db : ProbeDb) (id : Uuid) (status : HostStatus) : ProbeDb :=
  { db with hosts := Rows.update Host.id id (fun host => { host with status }) db.hosts }

/-- The write of the monitor. -/
def takeDown (db : ProbeDb) (id : Uuid) : ProbeDb :=
  { db.updateStatus id .down with downs := (db.statusOf id).toList ++ db.downs }

end ProbeDb

def listProbeable (hosts : List Host) : List Host :=
  hosts.filter fun host => host.status = .up || host.status = .maintenance

/-- What comes of a statement or a call. -/
structure Outcome where
  ok : Bool
  /-- The node answers, or the deployment or the move of the VMs succeeds. -/
  answered : Bool
  /-- Which of the probes on their way comes back. -/
  index : Nat

/-- What `handle_probe_result` writes to the status of a host, listed in this row. -/
def probeWrite (host : Host) (o : Outcome) : Option HostStatus :=
  if o.answered || host.status = .maintenance || !o.ok then none else some .down

/-- Where a handler that writes a status is. -/
inductive OperatorPc where
  /-- `PATCH /hosts` -/
  | update (status : HostStatus)
  | evacuate
  | enterMaintenance (original : HostStatus)
  | moveVms (original : HostStatus)
  | restore (original : HostStatus)
  /-- `deploy` and `node_upgrade` -/
  | deploy
  | deploying
  | init
  | done
  deriving DecidableEq

/-- Where the handler goes on, and the status it writes. -/
def operatorNext (db : ProbeDb) (id : Uuid) (o : Outcome) :
    OperatorPc → Option (OperatorPc × Option HostStatus)
  | .update status => some (.done, if o.ok then some status else none)
  | .evacuate =>
    match if o.ok then db.statusOf id else none with
    | some .up => some (.enterMaintenance .up, none)
    | some .maintenance => some (.enterMaintenance .maintenance, none)
    | _ => some (.done, none)
  | .enterMaintenance original =>
    some (if o.ok then (.moveVms original, some .maintenance) else (.done, none))
  | .moveVms original => some (if o.answered then .done else .restore original, none)
  | .restore original => some (.done, if o.ok then some original else none)
  | .deploy => some (if o.ok then (.deploying, some .installing) else (.done, none))
  | .deploying =>
    let status := if o.answered then .up else .installationFailed
    some (.done, if o.ok then some status else none)
  | .init => some (.done, if o.ok && o.answered then some .up else none)
  | .done => none

inductive ProbeTask where
  /-- The monitor, with the rows of the probes that are on their way. -/
  | monitor (pending : List Host)
  | operator (id : Uuid) (pc : OperatorPc)
  deriving DecidableEq

namespace ProbeTask

def begins : ProbeTask → Bool
  | .monitor [] | .operator _ (.update _) | .operator _ .evacuate | .operator _ .deploy
  | .operator _ .init => true
  | _ => false

/-- **One statement.**  A cycle of the monitor ends when all its probes came back. -/
def next (db : ProbeDb) (task : ProbeTask) (o : Outcome) : Option (ProbeTask × ProbeDb) :=
  match task with
  | .monitor [] => some (.monitor (if o.ok then listProbeable db.hosts else []), db)
  | .monitor pending => do
      let host ← pending[o.index]?
      let db := if (probeWrite host o).isSome then db.takeDown host.id else db
      some (.monitor (pending.eraseIdx o.index), db)
  | .operator id pc => do
      let (pc, write) ← operatorNext db id o pc
      some (.operator id pc, write.elim db (db.updateStatus id))

/-- The status that the statement writes. -/
def writes (db : ProbeDb) (task : ProbeTask) (o : Outcome) : Option (Uuid × HostStatus) :=
  match task with
  | .monitor pending => do
      let host ← pending[o.index]?
      (probeWrite host o).map (host.id, ·)
  | .operator id pc => (operatorNext db id o pc).bind fun r => r.2.map (id, ·)

/-- A probe of the host, listed as `Up`, is on its way. -/
def awaits (id : Uuid) : ProbeTask → Bool
  | .monitor pending => pending.any fun host => host.id = id && host.status = .up
  | .operator _ _ => false

end ProbeTask

abbrev Service := Pool ProbeDb ProbeTask

abbrev serviceStep : Service → Act ProbeTask Outcome → Option Service :=
  step ProbeTask.begins ProbeTask.next

/-- Any hosts, and nothing under way. -/
def Start (p : Service) : Prop :=
  (p.shared.hosts.map (·.id)).Nodup ∧ p.shared.downs = [] ∧ p.tasks = []

/-- **No other status than `Up` is written to a host while a probe of it is on its way** that was
listed as `Up`, other than by the result of that probe. -/
def undisturbed (p : Service) : Act ProbeTask Outcome → Bool
  | .run i o =>
    (p.tasks[i]?.bind fun task => task.writes p.shared o).all fun write =>
      write.2 = .up || (p.tasks.eraseIdx i).all fun task => !task.awaits write.1
  | .spawn _ => true

/-! ## What the monitor relies on -/

/-- The ids of hosts are different, and only hosts that were up were taken down. -/
structure Sound (db : ProbeDb) : Prop where
  nodup : (db.hosts.map (·.id)).Nodup
  downs : ∀ status ∈ db.downs, status = .up

/-- A host that was listed as `Up` still is. -/
def Relies (db : ProbeDb) : ProbeTask → Prop
  | .monitor pending => (pending.map (·.id)).Nodup ∧
      ∀ host ∈ pending, (host.status = .up ∧ db.statusOf host.id = some .up) ∨
        host.status = .maintenance
  | .operator _ _ => True

section Steps

variable {db db' : ProbeDb} {id id' : Uuid} {status : HostStatus} {t t' u : ProbeTask} {o : Outcome}

lemma updateStatus_ids (db : ProbeDb) (id : Uuid) (status : HostStatus) :
    (db.updateStatus id status).hosts.map (·.id) = db.hosts.map (·.id) :=
  Rows.map_update fun _ => rfl

lemma statusOf_updateStatus_of_ne (h : id' ≠ id) :
    (db.updateStatus id status).statusOf id' = db.statusOf id' :=
  congrArg (Option.map Host.status) (Rows.find?_update_of_ne h fun _ hk => hk)

lemma statusOf_updateStatus_self :
    (db.updateStatus id status).statusOf id = (db.statusOf id).map fun _ => status := by
  have hfind : (db.updateStatus id status).hosts.find? (·.id = id)
      = (db.hosts.find? (·.id = id)).map fun host => { host with status } :=
    Rows.find?_update_self fun _ hk => hk
  rw [ProbeDb.statusOf, hfind, ProbeDb.statusOf, Option.map_map, Option.map_map]
  rfl

/-- A write that no probe on its way minds. -/
lemma Relies.updateStatus (h : Relies db u) (hw : status = .up ∨ u.awaits id = false) :
    Relies (db.updateStatus id status) u := by
  cases u with
  | operator _ _ => trivial
  | monitor pending =>
    refine ⟨h.1, fun host hmem => (h.2 host hmem).imp_left fun ⟨hup, hnow⟩ => ⟨hup, ?_⟩⟩
    by_cases hid : host.id = id
    · rw [hid, statusOf_updateStatus_self, ← hid, hnow]
      rcases hw with rfl | hw
      · rfl
      · simp only [ProbeTask.awaits, List.any_eq_false] at hw
        exact absurd (by simp [hid, hup]) (hw host hmem)
    · rw [statusOf_updateStatus_of_ne hid, hnow]

/-- **What a statement can do**: write a status, by the monitor only as the result of a probe. -/
inductive Effect (db : ProbeDb) (t t' : ProbeTask) (o : Outcome) : ProbeDb → Prop
  | list : t = .monitor [] → t' = .monitor (listProbeable db.hosts) → Effect db t t' o db
  | probe (pending : List Host) (host : Host) : t = .monitor pending →
      pending[o.index]? = some host → t' = .monitor (pending.eraseIdx o.index) →
      host.status ≠ .maintenance → t.writes db o = some (host.id, .down) →
      Effect db t t' o (db.takeDown host.id)
  | answered (pending : List Host) : t = .monitor pending →
      t' = .monitor (pending.eraseIdx o.index) → Effect db t t' o db
  | write (id : Uuid) (pc pc' : OperatorPc) (status : HostStatus) : t = .operator id pc →
      t' = .operator id pc' → t.writes db o = some (id, status) →
      Effect db t t' o (db.updateStatus id status)
  | go (id : Uuid) (pc pc' : OperatorPc) : t = .operator id pc → t' = .operator id pc' →
      Effect db t t' o db

lemma effect_of_next (h : t.next db o = some (t', db')) : Effect db t t' o db' := by
  cases t with
  | monitor pending =>
    cases pending with
    | nil =>
      cases h
      cases o.ok with
      | true => exact .list rfl rfl
      | false => exact .answered [] rfl rfl
    | cons first rest =>
      obtain ⟨host, hhost, h⟩ := Option.bind_eq_some_iff.1 h
      cases h
      cases hw : probeWrite host o with
      | none => exact .answered _ rfl rfl
      | some status =>
        unfold probeWrite at hw
        split_ifs at hw with hcond
        cases hw
        simp only [Bool.or_eq_true, decide_eq_true_eq, not_or] at hcond
        refine .probe _ host rfl hhost rfl hcond.1.2 ?_
        simp [ProbeTask.writes, hhost, probeWrite, hcond]
  | operator id pc =>
    obtain ⟨⟨pc', write⟩, hnext, h⟩ := Option.bind_eq_some_iff.1 h
    cases h
    cases write with
    | none => exact .go id pc pc' rfl rfl
    | some status => exact .write id pc pc' status rfl rfl (by simp [ProbeTask.writes, hnext])

lemma statusOf_of_mem {host : Host} (hnodup : (db.hosts.map (·.id)).Nodup) (h : host ∈ db.hosts) :
    db.statusOf host.id = some host.status := by
  rw [ProbeDb.statusOf, Rows.find?_of_mem hnodup h]
  rfl

/-- Fewer probes on their way rely on less. -/
lemma Relies.sublist {pending rest : List Host} (h : Relies db (.monitor pending))
    (hsub : rest.Sublist pending) : Relies db (.monitor rest) :=
  ⟨h.1.sublist (hsub.map _), fun host hmem => h.2 host (hsub.subset hmem)⟩

lemma Sound.updateStatus (h : Sound db) : Sound (db.updateStatus id status) :=
  ⟨(updateStatus_ids db id status).symm ▸ h.nodup, h.downs⟩

/-- No probe of the host is left once one of it came back. -/
lemma awaits_eraseIdx {pending : List Host} {host : Host} {i : Nat}
    (hnodup : (pending.map (·.id)).Nodup) (h : pending[i]? = some host) :
    (ProbeTask.monitor (pending.eraseIdx i)).awaits host.id = false := by
  simp only [ProbeTask.awaits, List.any_eq_false]
  intro other hother
  obtain ⟨j, hji, hj⟩ := List.mem_eraseIdx_iff_getElem?.1 hother
  have hids : (pending.map (·.id))[j]? ≠ (pending.map (·.id))[i]? := by
    intro heq
    have hlt : j < (pending.map (·.id)).length := by
      simpa using (List.getElem?_eq_some_iff.1 hj).1
    exact hji ((List.getElem?_inj hlt hnodup).1 heq)
  simp only [List.getElem?_map, h, hj, Option.map_some, ne_eq, Option.some.injEq] at hids
  simp [hids]

end Steps

/-- **The monitor only takes down hosts that are up**, in every run in which no other status than
`Up` is written to a host while a probe of it is on its way that was listed as `Up`. -/
theorem downs_up {p : Service}
    (h : Reach serviceStep (fun p a => undisturbed p a = true) Start p) :
    ∀ status ∈ p.shared.downs, status = .up := by
  have hinv : Inv Sound Relies (fun _ _ => True) p := by
    refine reach_inv (fun _ _ _ => trivial) ?_ ?_ ?_ h
    · rintro p ⟨hnodup, hdowns, htasks⟩
      exact inv_nil htasks ⟨hnodup, by simp [hdowns]⟩
    · intro p t _ hb _
      refine ⟨?_, fun _ _ => trivial⟩
      cases t with
      | operator _ _ => trivial
      | monitor pending =>
        cases pending with
        | nil => exact ⟨List.nodup_nil, by simp⟩
        | cons _ _ => cases hb
    · intro p i o t t' db' hinv hok ht hnext
      have hothers : ∀ id status, t.writes p.shared o = some (id, status) →
          ∀ u ∈ p.tasks.eraseIdx i, status = .up ∨ u.awaits id = false := by
        intro id status hw u hu
        simp only [undisturbed, ht, Option.bind_some, hw, Option.all_some, Bool.or_eq_true,
          decide_eq_true_eq, List.all_eq_true, Bool.not_eq_true'] at hok
        exact hok.imp_right fun hall => hall u hu
      have hself := hinv.each i t ht
      rcases effect_of_next hnext with ⟨rfl, rfl⟩ | ⟨pending, host, rfl, hhost, rfl, hne, hw⟩ |
        ⟨pending, rfl, rfl⟩ | ⟨id, pc, pc', status, rfl, rfl, hw⟩ | ⟨id, pc, pc', rfl, rfl⟩
      · refine ⟨hinv.shared, ⟨?_, fun host hmem => ?_⟩, fun u _ hu _ => ⟨hu, trivial⟩⟩
        · exact hinv.shared.nodup.sublist (List.filter_sublist.map _)
        · obtain ⟨hhost, hstatus⟩ := List.mem_filter.1 hmem
          rw [statusOf_of_mem hinv.shared.nodup hhost]
          simpa [or_comm] using hstatus
      · have hup : p.shared.statusOf host.id = some .up := by
          rcases hself.2 host (List.mem_of_getElem? hhost) with ⟨-, hup⟩ | hmaintenance
          · exact hup
          · exact absurd hmaintenance hne
        refine ⟨⟨hinv.shared.updateStatus.nodup, ?_⟩, ?_, fun u hu hrelies _ => ⟨?_, trivial⟩⟩
        · simpa [ProbeDb.takeDown, hup] using hinv.shared.downs
        · exact (hself.sublist (List.eraseIdx_sublist _ _)).updateStatus
            (.inr (awaits_eraseIdx hself.1 hhost))
        · exact hrelies.updateStatus (hothers _ _ hw u hu)
      · exact ⟨hinv.shared, hself.sublist (List.eraseIdx_sublist _ _),
          fun u _ hu _ => ⟨hu, trivial⟩⟩
      · exact ⟨hinv.shared.updateStatus, trivial,
          fun u hu hrelies _ => ⟨hrelies.updateStatus (hothers _ _ hw u hu), trivial⟩⟩
      · exact ⟨hinv.shared, trivial, fun u _ hu _ => ⟨hu, trivial⟩⟩
  exact hinv.shared.downs

/-- A control plane with one host that is up. -/
def oneHost : Service := ⟨⟨[⟨⟨"h"⟩, .up⟩], []⟩, []⟩

/-- The operator waits for the probe. -/
theorem probe_then_maintenance : ∃ p, run serviceStep oneHost
    [.spawn (.monitor []), .run 0 ⟨true, true, 0⟩, .run 0 ⟨true, false, 0⟩,
      .spawn (.operator ⟨"h"⟩ (.update .maintenance)), .run 1 ⟨true, true, 0⟩] = some p ∧
    p.shared.downs = [.up] ∧ ∀ status ∈ p.shared.downs, status = .up := by
  refine (exists_reach ⟨by decide, rfl, rfl⟩ ?_).imp fun p h =>
    ⟨h.1, h.2.1, downs_up h.2.2⟩
  decide +kernel

/-- A host is put into maintenance while its node is asked, and the monitor takes it down. -/
theorem maintenance_taken_down : ∃ p, run serviceStep oneHost
    [.spawn (.monitor []), .run 0 ⟨true, true, 0⟩,
      .spawn (.operator ⟨"h"⟩ (.update .maintenance)), .run 1 ⟨true, true, 0⟩,
      .run 0 ⟨true, false, 0⟩] = some p ∧
    p.shared.downs = [.maintenance] ∧ p.shared.statusOf ⟨"h"⟩ = some .down :=
  ⟨⟨⟨[⟨⟨"h"⟩, .down⟩], [.maintenance]⟩, [.monitor [], .operator ⟨"h"⟩ .done]⟩,
    by decide +kernel, rfl, by decide⟩

end ResourceMonitor

end Qarax
