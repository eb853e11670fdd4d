import EirvahEdge.Contracts.JsonObject
import EirvahEdge.Devices.Controls
import EirvahEdge.Devices.InspectionStream

/-!
# The snapshot of the simulated device

What the simulator saves with every transaction: its register block with the three
controls, the inspection stream, the acknowledgements and the state of its random
number generator, as one JSON value.  `restore` reads it back after a restart.

Every part has a writer and a reader, and a lemma that the reader finds what was
written whatever order the members came in.  `restore_of_same` puts them together:
everything comes back as it was, except that a set of rejected bottles is saved as a
sorted list.
-/

namespace EirvahEdge.Devices

open EirvahEdge.Lib
open EirvahEdge.Contracts

/-! ## The runtime -/

/-- `random.Random().getstate()`: the words of the generator, its position in them
and the value that `gauss` keeps. -/
structure RngState where
  words : List ℕ
  index : ℕ
  gaussNext : Option PyFloat
  length_eq : words.length = 624
  words_lt : ∀ w ∈ words, w < 2 ^ 32
  index_le : index ≤ 624
deriving DecidableEq, Repr

/-- `RegisterBlock`. -/
structure RegisterBlock where
  fillLevelRaw : ℕ := 750
  motorState : ℕ := 1
  throughputRaw : ℕ := 80
  beltSpeedRaw : ℕ := 50
  jamDetected : ℕ := 0
  bottleCount : ℕ := 0
  rejectCount : ℕ := 0
  conveyorActive : ℕ := 1
  conveyor : MotorControl := ⟨80, 50, true, false⟩
  valve : ValveControl := {}
  reject : RejectControl := {}
deriving DecidableEq, Repr

/-- The three controls with a mailbox. -/
inductive Target where
  | conveyor
  | valve
  | reject
deriving DecidableEq, Repr

/-- `_acks`: the last sequence and status of each mailbox. -/
structure Acks where
  conveyor : Option (ℕ × ℕ) := none
  valve : Option (ℕ × ℕ) := none
  reject : Option (ℕ × ℕ) := none
deriving DecidableEq, Repr

/-- What a `SimulatorRuntime` saves. -/
structure Runtime where
  block : RegisterBlock
  inspection : InspectionStream
  acks : Acks
  rng : RngState
deriving DecidableEq, Repr

/-! ## Writing -/

def dumpNats (ns : List ℕ) : Json := .arr (ns.map fun n : ℕ => .int n)

def MotorControl.dumpFields (c : MotorControl) : List (String × Json) :=
  [("max_speed", .int c.maxSpeed), ("setpoint", .int c.setpoint),
    ("running", .bool c.running), ("faulted", .bool c.faulted)]

def ValveControl.dumpFields (c : ValveControl) : List (String × Json) :=
  [("opened", .bool c.opened)]

/-- The queue is saved in order, the set sorted. -/
def RejectControl.dumpFields (c : RejectControl) : List (String × Json) :=
  [("window", .int c.window), ("count", .int c.count), ("last_bottle", .int c.lastBottle),
    ("_present", dumpNats c.present),
    ("_rejected", dumpNats (c.rejected.insertionSort (· ≤ ·)))]

def RegisterBlock.dumpFields (b : RegisterBlock) : List (String × Json) :=
  [("fill_level_raw", .int b.fillLevelRaw), ("motor_state", .int b.motorState),
    ("throughput_raw", .int b.throughputRaw), ("belt_speed_raw", .int b.beltSpeedRaw),
    ("jam_detected", .int b.jamDetected), ("bottle_count", .int b.bottleCount),
    ("reject_count", .int b.rejectCount), ("conveyor_active", .int b.conveyorActive),
    ("conveyor", .obj b.conveyor.dumpFields), ("valve", .obj b.valve.dumpFields),
    ("reject", .obj b.reject.dumpFields)]

def InspectionStream.dumpFields (st : InspectionStream) : List (String × Json) :=
  [("session", .int st.session), ("every_n_bottles", .int st.everyNBottles),
    ("fail_every_n_inspections", .int st.failEveryNInspections),
    ("inspected", .int st.inspected), ("failed", .int st.failed), ("_bottles", .int st.bottles),
    ("_sequence", .int st.sequence), ("_snapshot", dumpNats st.snapshot)]

def dumpAck (key : String) (ack : Option (ℕ × ℕ)) : List (String × Json) :=
  ack.toList.map fun a => (key, dumpNats [a.1, a.2])

def Acks.dumpFields (a : Acks) : List (String × Json) :=
  dumpAck "20" a.conveyor ++ dumpAck "24" a.valve ++ dumpAck "28" a.reject

def dumpGauss : Option PyFloat → Json
  | none => .null
  | some x => .float x

/-- The version of the state is 3. -/
def RngState.dump (r : RngState) : Json :=
  .arr [.int 3, dumpNats (r.words ++ [r.index]), dumpGauss r.gaussNext]

/-- `_snapshot`. -/
def Runtime.snapshotFields (r : Runtime) : List (String × Json) :=
  [("block", .obj r.block.dumpFields), ("inspection", .obj r.inspection.dumpFields),
    ("acks", .obj r.acks.dumpFields), ("rng", r.rng.dump)]

def Runtime.snapshot (r : Runtime) : Json := .obj r.snapshotFields

/-! ## Reading -/

/-- What a missing member raises. -/
def keyError (name : String) : PyError := ⟨.other "KeyError", name⟩

def natOf? : Json → Option ℕ
  | .int (.ofNat n) => some n
  | _ => none

def parseNats : Json → Option (List ℕ)
  | .arr xs => xs.mapM natOf?
  | _ => none

def readNat (fields : List (String × Json)) (name : String) : Except PyError ℕ :=
  match (Json.member fields name).bind natOf? with
  | some n => .ok n
  | none => .error (keyError name)

def readBool (fields : List (String × Json)) (name : String) : Except PyError Bool :=
  match Json.member fields name with
  | some (.bool b) => .ok b
  | _ => .error (keyError name)

def readNats (fields : List (String × Json)) (name : String) : Except PyError (List ℕ) :=
  match (Json.member fields name).bind parseNats with
  | some ns => .ok ns
  | none => .error (keyError name)

def readObj (fields : List (String × Json)) (name : String) :
    Except PyError (List (String × Json)) :=
  match Json.member fields name with
  | some (.obj members) => .ok members
  | _ => .error (keyError name)

/-- `MotorControl(**block["conveyor"])`. -/
def MotorControl.parse (fields : List (String × Json)) : Except PyError MotorControl := do
  let maxSpeed ← readNat fields "max_speed"
  let setpoint ← readNat fields "setpoint"
  let running ← readBool fields "running"
  let faulted ← readBool fields "faulted"
  return { maxSpeed, setpoint, running, faulted }

/-- `ValveControl(**block["valve"])`. -/
def ValveControl.parse (fields : List (String × Json)) : Except PyError ValveControl := do
  let opened ← readBool fields "opened"
  return { opened }

/-- `RejectControl(**reject)` with the queue and the set made of their lists. -/
def RejectControl.parse (fields : List (String × Json)) : Except PyError RejectControl := do
  let window ← readNat fields "window"
  let count ← readNat fields "count"
  let lastBottle ← readNat fields "last_bottle"
  let present ← readNats fields "_present"
  let rejected ← readNats fields "_rejected"
  return { window, count, lastBottle, present, rejected }

/-- The block: the plain members are set one by one, the controls constructed. -/
def RegisterBlock.parse (fields : List (String × Json)) : Except PyError RegisterBlock := do
  let fillLevelRaw ← readNat fields "fill_level_raw"
  let motorState ← readNat fields "motor_state"
  let throughputRaw ← readNat fields "throughput_raw"
  let beltSpeedRaw ← readNat fields "belt_speed_raw"
  let jamDetected ← readNat fields "jam_detected"
  let bottleCount ← readNat fields "bottle_count"
  let rejectCount ← readNat fields "reject_count"
  let conveyorActive ← readNat fields "conveyor_active"
  let conveyor ← MotorControl.parse (← readObj fields "conveyor")
  let valve ← ValveControl.parse (← readObj fields "valve")
  let reject ← RejectControl.parse (← readObj fields "reject")
  return ⟨fillLevelRaw, motorState, throughputRaw, beltSpeedRaw, jamDetected, bottleCount,
    rejectCount, conveyorActive, conveyor, valve, reject⟩

/-- The stream, set member by member. -/
def InspectionStream.parse (fields : List (String × Json)) :
    Except PyError InspectionStream := do
  let session ← readNat fields "session"
  let everyNBottles ← readNat fields "every_n_bottles"
  let failEveryNInspections ← readNat fields "fail_every_n_inspections"
  let inspected ← readNat fields "inspected"
  let failed ← readNat fields "failed"
  let bottles ← readNat fields "_bottles"
  let sequence ← readNat fields "_sequence"
  let snapshot ← readNats fields "_snapshot"
  if h : (0 < session ∧ session < 2 ^ 64) ∧ 0 < everyNBottles ∧ 0 < failEveryNInspections ∧
      sequence ≤ 65535 then
    return {
      session, everyNBottles, failEveryNInspections, inspected, failed, bottles, sequence, snapshot
      session_pos := h.1.1
      session_lt := h.1.2
      every_pos := h.2.1
      fail_pos := h.2.2.1
      sequence_le := h.2.2.2 }
  else throw (keyError "inspection")

/-- `[sequence, status]` under a key, when there is one. -/
def readAck (fields : List (String × Json)) (key : String) :
    Except PyError (Option (ℕ × ℕ)) :=
  match Json.member fields key with
  | none => .ok none
  | some j =>
      match parseNats j with
      | some [sequence, status] => .ok (some (sequence, status))
      | _ => .error (keyError key)

def Acks.parse (fields : List (String × Json)) : Except PyError Acks := do
  let conveyor ← readAck fields "20"
  let valve ← readAck fields "24"
  let reject ← readAck fields "28"
  return { conveyor, valve, reject }

def gaussOf? : Json → Option (Option PyFloat)
  | .null => some none
  | .float x => some (some x)
  | _ => none

/-- `setstate((rng[0], tuple(rng[1]), rng[2]))`. -/
def RngState.parse : Json → Except PyError RngState
  | .arr [version, words, gauss] =>
      match natOf? version, parseNats words, gaussOf? gauss with
      | some 3, some ns, some gaussNext =>
          if h : (ns.take 624).length = 624 ∧ (∀ w ∈ ns.take 624, w < 2 ^ 32) ∧
              ns.length = 625 ∧ ns.getD 624 0 ≤ 624 then
            .ok ⟨ns.take 624, ns.getD 624 0, gaussNext, h.1, h.2.1, h.2.2.2⟩
          else .error (valueError "state vector is the wrong size")
      | _, _, _ => .error (valueError "invalid state")
  | _ => .error (valueError "invalid state")

def readRng (fields : List (String × Json)) : Except PyError RngState :=
  match Json.member fields "rng" with
  | some j => RngState.parse j
  | none => .error (keyError "rng")

/-- The part of `_open_recovery` that reads a saved state. -/
def restore : Json → Except PyError Runtime
  | .obj fields => do
      let block ← RegisterBlock.parse (← readObj fields "block")
      let inspection ← InspectionStream.parse (← readObj fields "inspection")
      let acks ← Acks.parse (← readObj fields "acks")
      let rng ← readRng fields
      return { block, inspection, acks, rng }
  | _ => .error (keyError "state")

/-! ## What is written is read -/

theorem natOf?_int (n : ℕ) : natOf? (.int n) = some n := rfl

theorem sortKeys_dumpNats (ns : List ℕ) : (dumpNats ns).sortKeys = dumpNats ns := by
  show Json.arr (Json.sortKeysList (ns.map fun n : ℕ => .int n)) = _
  rw [dumpNats, Json.arr.injEq]
  induction ns with
  | nil => rfl
  | cons n ns ih =>
      rw [List.map_cons, Json.sortKeysList, ih]
      rfl

/-- A list of numbers has one form. -/
theorem same_dumpNats {j : Json} {ns : List ℕ} (h : Json.Same j (dumpNats ns)) :
    j = dumpNats ns := by
  unfold Json.Same at h
  rw [sortKeys_dumpNats] at h
  cases j with
  | arr xs =>
      have hlist : Json.sortKeysList xs = ns.map fun n : ℕ => .int n := Json.arr.inj h
      rw [dumpNats, Json.arr.injEq]
      clear h
      induction xs generalizing ns with
      | nil => simpa [Json.sortKeysList] using hlist
      | cons x xs ih =>
          cases ns with
          | nil => simp [Json.sortKeysList] at hlist
          | cons n ns =>
              rw [Json.sortKeysList, List.map_cons, List.cons.injEq] at hlist
              rw [List.map_cons, ih hlist.2, Json.same_int.1 hlist.1]
  | null | bool | int | float | str | time | obj => simp [Json.sortKeys, dumpNats] at h

theorem parseNats_dumpNats (ns : List ℕ) : parseNats (dumpNats ns) = some ns := by
  show (ns.map fun n : ℕ => Json.int n).mapM natOf? = some ns
  induction ns with
  | nil => rfl
  | cons n ns ih =>
      rw [List.map_cons, List.mapM_cons, ih]
      rfl

section Received

variable {fs gs : List (String × Json)} (hperm : (fs.map normal).Perm (gs.map normal))
  (hnodup : (gs.map Prod.fst).Nodup) (name : String)
include hperm hnodup

theorem readNat_of_same (n : ℕ) (h : (name, .int n) ∈ gs) : readNat fs name = .ok n := by
  obtain ⟨w, hw, hsame⟩ := Json.member_of_same hperm hnodup h
  rw [readNat, hw, Json.same_int.1 hsame, Option.bind_some, natOf?_int]

theorem readBool_of_same (b : Bool) (h : (name, .bool b) ∈ gs) : readBool fs name = .ok b := by
  obtain ⟨w, hw, hsame⟩ := Json.member_of_same hperm hnodup h
  rw [readBool, hw, Json.same_bool.1 hsame]

theorem readNats_of_same (ns : List ℕ) (h : (name, dumpNats ns) ∈ gs) :
    readNats fs name = .ok ns := by
  obtain ⟨w, hw, hsame⟩ := Json.member_of_same hperm hnodup h
  rw [readNats, hw, same_dumpNats hsame, Option.bind_some, parseNats_dumpNats]

theorem readObj_of_same (hs : List (String × Json)) (h : (name, .obj hs) ∈ gs) :
    ∃ ms, readObj fs name = .ok ms ∧ (ms.map normal).Perm (hs.map normal) := by
  obtain ⟨w, hw, hsame⟩ := Json.member_of_same hperm hnodup h
  obtain ⟨ms, rfl, hms⟩ := Json.same_obj hsame
  refine ⟨ms, ?_, hms⟩
  rw [readObj, hw]

end Received

/-! ### Controls -/

section Parts

variable {fs : List (String × Json)}

theorem MotorControl.parse_of_same {c : MotorControl}
    (h : (fs.map normal).Perm (c.dumpFields.map normal)) : parse fs = .ok c := by
  have hnodup : (c.dumpFields.map Prod.fst).Nodup := by
    show ["max_speed", "setpoint", "running", "faulted"].Nodup
    decide
  have hmax := readNat_of_same h hnodup "max_speed" c.maxSpeed (by simp [dumpFields])
  have hset := readNat_of_same h hnodup "setpoint" c.setpoint (by simp [dumpFields])
  have hrun := readBool_of_same h hnodup "running" c.running (by simp [dumpFields])
  have hfault := readBool_of_same h hnodup "faulted" c.faulted (by simp [dumpFields])
  rw [parse, hmax, hset, hrun, hfault]
  rfl

theorem ValveControl.parse_of_same {c : ValveControl}
    (h : (fs.map normal).Perm (c.dumpFields.map normal)) : parse fs = .ok c := by
  have hnodup : (c.dumpFields.map Prod.fst).Nodup := by
    show ["opened"].Nodup
    decide
  rw [parse, readBool_of_same h hnodup "opened" c.opened (by simp [dumpFields])]
  rfl

/-- The set of rejected bottles in order. -/
def RejectControl.sorted (c : RejectControl) : RejectControl :=
  { c with rejected := c.rejected.insertionSort (· ≤ ·) }

theorem RejectControl.parse_of_same {c : RejectControl}
    (h : (fs.map normal).Perm (c.dumpFields.map normal)) : parse fs = .ok c.sorted := by
  have hnodup : (c.dumpFields.map Prod.fst).Nodup := by
    show ["window", "count", "last_bottle", "_present", "_rejected"].Nodup
    decide
  have hwindow := readNat_of_same h hnodup "window" c.window (by simp [dumpFields])
  have hcount := readNat_of_same h hnodup "count" c.count (by simp [dumpFields])
  have hlast := readNat_of_same h hnodup "last_bottle" c.lastBottle (by simp [dumpFields])
  have hpresent := readNats_of_same h hnodup "_present" c.present (by simp [dumpFields])
  have hrejected := readNats_of_same h hnodup "_rejected"
    (c.rejected.insertionSort (· ≤ ·)) (by simp [dumpFields])
  rw [parse, hwindow, hcount, hlast, hpresent, hrejected]
  rfl

/-! ### Block -/

def RegisterBlock.sorted (b : RegisterBlock) : RegisterBlock :=
  { b with reject := b.reject.sorted }

theorem RegisterBlock.parse_of_same {b : RegisterBlock}
    (h : (fs.map normal).Perm (b.dumpFields.map normal)) : parse fs = .ok b.sorted := by
  have hnodup : (b.dumpFields.map Prod.fst).Nodup := by
    show ["fill_level_raw", "motor_state", "throughput_raw", "belt_speed_raw", "jam_detected",
      "bottle_count", "reject_count", "conveyor_active", "conveyor", "valve", "reject"].Nodup
    decide
  have hread : ∀ name n, (name, Json.int (n : ℕ)) ∈ b.dumpFields →
      readNat fs name = .ok n := fun name n => readNat_of_same h hnodup name n
  have hfill := hread "fill_level_raw" b.fillLevelRaw (by simp [dumpFields])
  have hmotor := hread "motor_state" b.motorState (by simp [dumpFields])
  have hthroughput := hread "throughput_raw" b.throughputRaw (by simp [dumpFields])
  have hspeed := hread "belt_speed_raw" b.beltSpeedRaw (by simp [dumpFields])
  have hjam := hread "jam_detected" b.jamDetected (by simp [dumpFields])
  have hbottles := hread "bottle_count" b.bottleCount (by simp [dumpFields])
  have hrejects := hread "reject_count" b.rejectCount (by simp [dumpFields])
  have hactive := hread "conveyor_active" b.conveyorActive (by simp [dumpFields])
  obtain ⟨conveyor, hconveyor, hconveyor'⟩ :=
    readObj_of_same h hnodup "conveyor" b.conveyor.dumpFields (by simp [dumpFields])
  obtain ⟨valve, hvalve, hvalve'⟩ :=
    readObj_of_same h hnodup "valve" b.valve.dumpFields (by simp [dumpFields])
  obtain ⟨reject, hreject, hreject'⟩ :=
    readObj_of_same h hnodup "reject" b.reject.dumpFields (by simp [dumpFields])
  have hmotor' := MotorControl.parse_of_same hconveyor'
  have hvalve' := ValveControl.parse_of_same hvalve'
  have hreject' := RejectControl.parse_of_same hreject'
  simp only [parse, hfill, hmotor, hthroughput, hspeed, hjam, hbottles, hrejects, hactive,
    hconveyor, hmotor', hvalve, hvalve', hreject, hreject', bind, Except.bind]
  rfl

/-! ### Inspection, acknowledgements and random numbers -/

theorem InspectionStream.parse_of_same {st : InspectionStream}
    (h : (fs.map normal).Perm (st.dumpFields.map normal)) : parse fs = .ok st := by
  have hnodup : (st.dumpFields.map Prod.fst).Nodup := by
    show ["session", "every_n_bottles", "fail_every_n_inspections", "inspected", "failed",
      "_bottles", "_sequence", "_snapshot"].Nodup
    decide
  have hread : ∀ name n, (name, Json.int (n : ℕ)) ∈ st.dumpFields →
      readNat fs name = .ok n := fun name n => readNat_of_same h hnodup name n
  have hsession := hread "session" st.session (by simp [dumpFields])
  have hevery := hread "every_n_bottles" st.everyNBottles (by simp [dumpFields])
  have hfail := hread "fail_every_n_inspections" st.failEveryNInspections
    (by simp [dumpFields])
  have hinspected := hread "inspected" st.inspected (by simp [dumpFields])
  have hfailed := hread "failed" st.failed (by simp [dumpFields])
  have hbottles := hread "_bottles" st.bottles (by simp [dumpFields])
  have hsequence := hread "_sequence" st.sequence (by simp [dumpFields])
  have hsnapshot := readNats_of_same h hnodup "_snapshot" st.snapshot (by simp [dumpFields])
  simp only [parse, hsession, hevery, hfail, hinspected, hfailed, hbottles, hsequence,
    hsnapshot, bind, Except.bind]
  rw [dif_pos ⟨⟨st.session_pos, st.session_lt⟩, st.every_pos, st.fail_pos, st.sequence_le⟩]
  rfl

/-- A mailbox without an acknowledgement has no member. -/
theorem readAck_of_same {gs : List (String × Json)}
    (h : (fs.map normal).Perm (gs.map normal)) (hnodup : (gs.map Prod.fst).Nodup)
    (key : String) (ack : Option (ℕ × ℕ)) (hnone : ack = none → key ∉ gs.map Prod.fst)
    (hsome : ∀ a, ack = some a → (key, dumpNats [a.1, a.2]) ∈ gs) :
    readAck fs key = .ok ack := by
  cases ack with
  | none => rw [readAck, Json.member_of_notMem h (hnone rfl)]
  | some a =>
      obtain ⟨w, hw, hsame⟩ := Json.member_of_same h hnodup (hsome a rfl)
      simp only [readAck, hw, same_dumpNats hsame, parseNats_dumpNats]

theorem Acks.parse_of_same {a : Acks}
    (h : (fs.map normal).Perm (a.dumpFields.map normal)) : parse fs = .ok a := by
  obtain ⟨conveyor, valve, reject⟩ := a
  have hnodup : ((Acks.dumpFields ⟨conveyor, valve, reject⟩).map Prod.fst).Nodup := by
    cases conveyor <;> cases valve <;> cases reject <;> simp [dumpFields, dumpAck]
  have hread : ∀ key ack,
      (ack = none → key ∉ (Acks.dumpFields ⟨conveyor, valve, reject⟩).map Prod.fst) →
      (∀ a, ack = some a →
        (key, dumpNats [a.1, a.2]) ∈ Acks.dumpFields ⟨conveyor, valve, reject⟩) →
      readAck fs key = .ok ack := fun key ack => readAck_of_same h hnodup key ack
  have hconveyor := hread "20" conveyor
    (by rintro rfl; cases valve <;> cases reject <;> simp [dumpFields, dumpAck])
    (by rintro a rfl; simp [dumpFields, dumpAck])
  have hvalve := hread "24" valve
    (by rintro rfl; cases conveyor <;> cases reject <;> simp [dumpFields, dumpAck])
    (by rintro a rfl; simp [dumpFields, dumpAck])
  have hreject := hread "28" reject
    (by rintro rfl; cases conveyor <;> cases valve <;> simp [dumpFields, dumpAck])
    (by rintro a rfl; simp [dumpFields, dumpAck])
  rw [parse, hconveyor, hvalve, hreject]
  rfl

theorem same_gauss {j : Json} {g : Option PyFloat} (h : Json.Same j (dumpGauss g)) :
    gaussOf? j = some g := by
  cases g with
  | none => rw [Json.same_null.1 h]; rfl
  | some x =>
      have hfloat : j = .float x := by
        cases j <;> simp_all [Json.Same, Json.sortKeys, dumpGauss]
      rw [hfloat]
      rfl

/-- The state vector is cut where it was put together. -/
theorem RngState.parse_of_same {j : Json} {r : RngState} (h : Json.Same j r.dump) :
    parse j = .ok r := by
  obtain ⟨version, words, gauss, rfl, hversion, hwords, hgauss⟩ :
      ∃ version words gauss, j = .arr [version, words, gauss] ∧ Json.Same version (.int 3) ∧
        Json.Same words (dumpNats (r.words ++ [r.index])) ∧
        Json.Same gauss (dumpGauss r.gaussNext) := by
    rcases j with _ | _ | _ | _ | _ | _ | xs | _ <;>
      simp only [Json.Same, Json.sortKeys, dump, reduceCtorEq, Json.arr.injEq] at h
    rcases xs with _ | ⟨a, _ | ⟨b, _ | ⟨c, _ | ⟨d, rest⟩⟩⟩⟩
    · simp [Json.sortKeysList] at h
    · simp [Json.sortKeysList] at h
    · simp [Json.sortKeysList] at h
    · simp only [Json.sortKeysList, List.cons.injEq] at h
      exact ⟨a, b, c, rfl, h.1, h.2.1, h.2.2.1⟩
    · simp [Json.sortKeysList] at h
  have htake : (r.words ++ [r.index]).take 624 = r.words := by
    rw [← r.length_eq, List.take_left]
  have hlast : (r.words ++ [r.index]).getD 624 0 = r.index := by
    rw [← r.length_eq]
    simp
  have hversion' : natOf? version = some 3 := by
    rw [Json.same_int.1 hversion]
    rfl
  have hlength : (r.words ++ [r.index]).length = 625 := by simp [r.length_eq]
  simp only [parse, hversion', same_dumpNats hwords, parseNats_dumpNats, same_gauss hgauss,
    htake, hlast]
  rw [dif_pos ⟨r.length_eq, r.words_lt, hlength, r.index_le⟩]

end Parts

/-! ### The whole -/

/-- What a restart reads: the set of rejected bottles comes in order. -/
def Runtime.sorted (r : Runtime) : Runtime := { r with block := r.block.sorted }

/-- **What was saved is restored**, in whatever order its members come. -/
theorem restore_of_same {j : Json} {r : Runtime} (h : Json.Same j r.snapshot) :
    restore j = .ok r.sorted := by
  obtain ⟨fs, rfl, hperm⟩ := Json.same_obj h
  have hnodup : (r.snapshotFields.map Prod.fst).Nodup := by
    show ["block", "inspection", "acks", "rng"].Nodup
    decide
  obtain ⟨block, hblock, hblock'⟩ :=
    readObj_of_same hperm hnodup "block" r.block.dumpFields (by simp [Runtime.snapshotFields])
  obtain ⟨inspection, hinspection, hinspection'⟩ :=
    readObj_of_same hperm hnodup "inspection" r.inspection.dumpFields
      (by simp [Runtime.snapshotFields])
  obtain ⟨acks, hacks, hacks'⟩ :=
    readObj_of_same hperm hnodup "acks" r.acks.dumpFields (by simp [Runtime.snapshotFields])
  have hmem : ("rng", r.rng.dump) ∈ r.snapshotFields := by simp [Runtime.snapshotFields]
  obtain ⟨rng, hrng, hsame⟩ := Json.member_of_same hperm hnodup hmem
  simp only [restore, hblock, RegisterBlock.parse_of_same hblock', hinspection,
    InspectionStream.parse_of_same hinspection', hacks, Acks.parse_of_same hacks', readRng, hrng,
    RngState.parse_of_same hsame, bind, Except.bind]
  rfl

theorem RejectControl.mem_sorted {c : RejectControl} {b : ℕ} :
    b ∈ c.sorted.rejected ↔ b ∈ c.rejected :=
  (List.perm_insertionSort (· ≤ ·) c.rejected).mem_iff

theorem RejectControl.sorted_wf {c : RejectControl} (h : c.Wf) : c.sorted.Wf where
  present_nodup := h.present_nodup
  rejected_present b hb := h.rejected_present b (mem_sorted.1 hb)
  within := h.within
  count_le := h.count_le

end EirvahEdge.Devices
