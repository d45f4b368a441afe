/-
  Proofs/Dashboard.lean --- the window of readings and the thresholds in force.

  The window is read off the calls on the publisher: after any calls it holds
  the last `capacity` readings stored since the last clearing, oldest first,
  each the log of the measurement that reported it.  `push` keeps that shape
  one reading at a time (`push_rtake`), and each reading's broadcast carries
  the window right after it.

  Every threshold in force is kept under its own metric, one of `metrics`
  (`Dashboard.Consistent`), and every call keeps it so.  A batch is refused,
  naming its first metric outside `metrics`, exactly when it has one, and then
  nothing changes and nothing is sent.  Otherwise each threshold replaces that
  of its metric in batch order, the last of a metric winning
  (`getElem?_foldl_insert`); the list in force is ordered by metric with one
  entry each; and the latest reading, when there is one, is evaluated against
  every threshold without fail, so the broadcast always goes out.  That last
  step rests on the two spellings of the metrics agreeing: the list a batch is
  checked against names exactly the metrics a reading has a value for
  (`DeviceLog.metricValue_ok_iff`).
-/
import Mathlib.Data.List.DropRight
import TopicHub.Hub.Publisher
import TopicHub.Proofs.Frames

set_option autoImplicit false

namespace TopicHub

open Std

/-! ## Metrics by name -/

namespace Telemetry

/-- The two spellings of the metrics agree: a stored reading has a value for
a name exactly when the name is one of `metrics`. -/
theorem DeviceLog.metricValue_ok_iff (log : DeviceLog) (name : String) :
    (∃ v, log.metricValue name = .ok v) ↔ name ∈ metrics := by
  unfold DeviceLog.metricValue
  split <;> simp_all [metrics]

/-- Evaluating a stored reading against thresholds of metrics in `metrics`
never fails: each threshold, in order, gets the evaluation of its metric's
value. -/
theorem DeviceLog.evaluateAll_ok (log : DeviceLog) {ts : List Threshold}
    (hknown : ∀ t ∈ ts, t.metric ∈ metrics) :
    ∃ evs, log.evaluateAll ts = .ok evs ∧
      List.Forall₂ (fun t e => ∃ v, log.metricValue t.metric = .ok v ∧ e = t.evaluate v) ts evs := by
  induction ts with
  | nil => exact ⟨[], rfl, .nil⟩
  | cons t rest ih =>
    obtain ⟨v, hv⟩ := (log.metricValue_ok_iff t.metric).2 (hknown t List.mem_cons_self)
    obtain ⟨evs, hevs, hall⟩ := ih fun u hu => hknown u (List.mem_cons_of_mem t hu)
    refine ⟨t.evaluate v :: evs, ?_, .cons ⟨v, hv, rfl⟩ hall⟩
    rw [DeviceLog.evaluateAll, hv, hevs]
    rfl

/-- The measurement a stored reading carries: its device and its four values. -/
def DeviceLog.reading (log : DeviceLog) : Measurement :=
  ⟨log.deviceId, log.temperature, log.humidity, log.pressure, log.airQuality⟩

/-- A stored reading carries the measurement it was stored from. -/
@[simp] theorem Measurement.reading_toLog (m : Measurement) (id : String) (at_ : Timestamp) :
    (m.toLog id at_).reading = m := rfl

end Telemetry

namespace Hub

open Telemetry

/-! ## The window -/

namespace Dashboard

/-- Adding a reading to the last `capacity` readings keeps the last `capacity`
of all of them. -/
theorem push_rtake (capacity : Nat) (stored : List DeviceLog) (log : DeviceLog) :
    push capacity (stored.rtake capacity) log = (stored ++ [log]).rtake capacity := by
  unfold push
  split_ifs with hzero
  · simp [hzero, List.rtake_zero]
  · obtain ⟨n, rfl⟩ := Nat.exists_eq_succ_of_ne_zero hzero
    rw [List.rtake_concat_succ]
    -- the window already holds at most `n + 1` readings; its oldest goes when it is full
    simp only [List.rtake, List.length_drop, List.drop_drop]
    congr 2
    omega

/-- The check of a batch finds no metric outside `metrics` exactly when every
metric of the batch is in it. -/
theorem find?_unknown_eq_none {batch : List Threshold} :
    batch.find? (fun t => !metrics.contains t.metric) = none ↔ ∀ t ∈ batch, t.metric ∈ metrics := by
  rw [List.find?_eq_none]
  refine forall₂_congr fun t _ => ?_
  simp

/-- What a batch does to the dashboard: nothing, or, when all its metrics are
in `metrics`, it is inserted in order into the thresholds, and nothing else
changes.  The batch is stored whatever the evaluation after it gives. -/
theorem updateThresholds_fst (d : Dashboard) (batch : List Threshold) :
    (d.updateThresholds batch).1 = d ∨
      ((∀ t ∈ batch, t.metric ∈ metrics) ∧ (d.updateThresholds batch).1 =
        { d with thresholds := batch.foldl (fun m t => m.insert t.metric t) d.thresholds }) := by
  unfold updateThresholds
  split
  · exact .inl rfl
  · next hfind => exact .inr ⟨find?_unknown_eq_none.1 hfind, rfl⟩

end Dashboard

namespace Publication

/-- What the readings stored since the last clearing give, after a call and
given what they gave before: a reading adds what `f` makes of it, a clearing
drops everything. -/
def sinceClear {α : Type} (f : Measurement → String → Timestamp → α) (acc : List α) :
    Publication → List α
  | .record _ m id at_ => acc ++ [f m id at_]
  | .clear _ => []
  | .interval .. | .thresholds .. => acc

/-- The logs stored since the last clearing, oldest first. -/
def storedSince (calls : List Publication) : List DeviceLog :=
  calls.foldl (sinceClear Measurement.toLog) []

/-- The measurements reported since the last clearing, oldest first. -/
def reportedSince (calls : List Publication) : List Measurement :=
  calls.foldl (sinceClear fun m _ _ => m) []

/-- The stored logs carry the reported measurements. -/
theorem storedSince_map_reading (calls : List Publication) :
    (storedSince calls).map DeviceLog.reading = reportedSince calls := by
  suffices h : ∀ (stored : List DeviceLog),
      (calls.foldl (sinceClear Measurement.toLog) stored).map DeviceLog.reading =
        calls.foldl (sinceClear fun m _ _ => m) (stored.map DeviceLog.reading) from h []
  induction calls with
  | nil => intro _; rfl
  | cons c rest ih =>
    intro stored
    rw [List.foldl_cons, List.foldl_cons, ih]
    cases c <;> simp [sinceClear]

end Publication

namespace Server

variable {s : Server}

/-- Putting thresholds in force changes the server's dashboard alone, as the
dashboard's own call does, whether or not the batch is broadcast. -/
theorem updateThresholds_dashboard (links : ConnId → Link) (batch : List Threshold) :
    (s.updateThresholds links batch).1 = { s with dashboard := (s.dashboard.updateThresholds batch).1 } := by
  cases h : s.dashboard.updateThresholds batch with
  | mk d e => cases e <;> simp [updateThresholds, h]

/-- Putting thresholds in force leaves everything but the thresholds as it
was. -/
theorem updateThresholds_fst (links : ConnId → Link) (batch : List Threshold) :
    ∃ ts, (s.updateThresholds links batch).1 = { s with dashboard := { s.dashboard with thresholds := ts } } := by
  rw [updateThresholds_dashboard]
  rcases Dashboard.updateThresholds_fst s.dashboard batch with hsame | ⟨-, hstored⟩
  · exact ⟨s.dashboard.thresholds, by rw [hsame]⟩
  · exact ⟨_, by rw [hstored]⟩

@[simp] theorem capacity_publish (s : Server) (c : Publication) :
    (s.publish c).1.dashboard.capacity = s.dashboard.capacity := by
  cases c with
  | thresholds links batch =>
    obtain ⟨ts, hts⟩ := @updateThresholds_fst s links batch
    simp [publish, hts]
  | _ => rfl

/-- A call leaves the window as the stored readings after it, trimmed to the
capacity. -/
theorem window_publish {stored : List DeviceLog}
    (hw : s.dashboard.window = stored.rtake s.dashboard.capacity) (c : Publication) :
    (s.publish c).1.dashboard.window =
      (Publication.sinceClear Measurement.toLog stored c).rtake s.dashboard.capacity := by
  cases c with
  | record links m id at_ =>
    simp only [publish, recordMeasurement, Dashboard.record, Publication.sinceClear, hw]
    exact Dashboard.push_rtake _ _ _
  | clear links => simp [publish, clearData, Dashboard.clear, Publication.sinceClear]
  | interval links n => exact hw
  | thresholds links batch =>
    obtain ⟨ts, hts⟩ := @updateThresholds_fst s links batch
    simpa [publish, hts, Publication.sinceClear] using hw

/-- After any calls, the window is the readings stored since the last
clearing, trimmed to the capacity; the capacity stays. -/
theorem window_publishAll (calls : List Publication) :
    ∀ (s : Server) (stored : List DeviceLog), s.dashboard.window = stored.rtake s.dashboard.capacity →
      (s.publishAll calls).dashboard.capacity = s.dashboard.capacity ∧
        (s.publishAll calls).dashboard.window =
          (calls.foldl (Publication.sinceClear Measurement.toLog) stored).rtake s.dashboard.capacity := by
  induction calls with
  | nil => intro s stored hw; exact ⟨rfl, hw⟩
  | cons c rest ih =>
    intro s stored hw
    have hnext := ih (s.publish c).1 _ (by rw [capacity_publish]; exact window_publish hw c)
    rw [capacity_publish] at hnext
    exact hnext

/-- A reading's broadcast carries the window with the new reading in it. -/
theorem publish_record (links : ConnId → Link) (m : Measurement) (id : String) (at_ : Timestamp) :
    (s.publish (.record links m id at_)).2 =
      (s.publish (.record links m id at_)).1.announce links
        (.liveData (s.publish (.record links m id at_)).1.dashboard.window) := rfl

end Server

/-- For a publisher of any capacity and every sequence of calls, the window
is the last `capacity` logs stored since the last clearing (or from the
start), oldest first, so it never holds more than `capacity` and holds none
when the capacity is zero; the logs carry the measurements reported, device
and values; and a reading's broadcast carries the window right after the
reading was added. -/
theorem window_keeps_latest_readings (capacity : Nat) (calls : List Publication) :
    let s := (Server.empty capacity).publishAll calls
    s.dashboard.window = (Publication.storedSince calls).rtake capacity ∧
      s.dashboard.window.map DeviceLog.reading = (Publication.reportedSince calls).rtake capacity ∧
      s.dashboard.window.length ≤ capacity ∧ (capacity = 0 → s.dashboard.window = []) ∧
      ∀ links m id at_, (s.publish (.record links m id at_)).2 =
        (s.publish (.record links m id at_)).1.announce links
          (.liveData ((Publication.storedSince (calls ++ [.record links m id at_])).rtake capacity)) := by
  intro s
  have hrun : ∀ calls : List Publication, ((Server.empty capacity).publishAll calls).dashboard.window =
      (Publication.storedSince calls).rtake capacity := fun calls =>
    (Server.window_publishAll calls (Server.empty capacity) [] (by simp [Server.empty, Dashboard.empty, List.rtake])).2
  have hwindow := hrun calls
  refine ⟨hwindow, ?_, ?_, ?_, fun links m id at_ => ?_⟩
  · have hlen : (Publication.storedSince calls).length = (Publication.reportedSince calls).length := by
      rw [← Publication.storedSince_map_reading, List.length_map]
    rw [hwindow, List.rtake, List.rtake, List.map_drop, Publication.storedSince_map_reading, hlen]
  · rw [hwindow, List.rtake, List.length_drop]
    omega
  · rintro rfl
    rw [hwindow, List.rtake_zero]
  · -- the state after the reading is the run with the reading appended
    have hafter : (s.publish (.record links m id at_)).1 =
        (Server.empty capacity).publishAll (calls ++ [.record links m id at_]) := by
      simp [s, Server.publishAll, List.foldl_append]
    rw [Server.publish_record, ← hrun, ← hafter]

/-! ## The thresholds -/

namespace Dashboard

/-- Every threshold in force is kept under its own metric, the name of a
metric in `metrics`. -/
def Consistent (d : Dashboard) : Prop :=
  ∀ (k : String) (t : Threshold), d.thresholds[k]? = some t → t.metric = k ∧ k ∈ metrics

/-- What the broadcast of a batch evaluates: nothing without a reading, else
every threshold of `list`, in order, against the latest reading's value of its
metric, without fail. -/
structure Evaluated (d : Dashboard) (list : List Threshold) (evs : List Evaluation) : Prop where
  none_without_reading : d.window = [] → evs = []
  of_latest : ∀ log, d.latest? = some log →
    log.evaluateAll list = .ok evs ∧
      List.Forall₂ (fun t e => ∃ v, log.metricValue t.metric = .ok v ∧ e = t.evaluate v) list evs

variable {d : Dashboard} {batch : List Threshold}

theorem consistent_empty (capacity : Nat) : (empty capacity).Consistent := by
  intro k t h
  simp [empty] at h

/-- After a batch is inserted in order, a metric holds the batch's last
threshold of that metric, or else what it held. -/
theorem getElem?_foldl_insert (batch : List Threshold) (ts : TreeMap String Threshold compare)
    (k : String) :
    (batch.foldl (fun m t => m.insert t.metric t) ts)[k]? =
      (batch.reverse.find? (·.metric == k)).or ts[k]? := by
  induction batch generalizing ts with
  | nil => simp
  | cons t rest ih =>
    rw [List.foldl_cons, ih, List.reverse_cons, List.find?_append, Option.or_assoc]
    congr 1
    by_cases hk : t.metric = k
    · simp [hk]
    · simp [hk, TreeMap.getElem?_insert]

/-- Inserting thresholds of known metrics keeps the thresholds consistent. -/
theorem Consistent.upsert (hc : d.Consistent) (hknown : ∀ t ∈ batch, t.metric ∈ metrics) :
    ({ d with thresholds := batch.foldl (fun m t => m.insert t.metric t) d.thresholds } :
      Dashboard).Consistent := by
  intro k t h
  simp only at h
  rw [getElem?_foldl_insert] at h
  cases hfind : batch.reverse.find? (·.metric == k) with
  | none =>
    rw [hfind, Option.none_or] at h
    exact hc k t h
  | some u =>
    rw [hfind, Option.some_or] at h
    obtain rfl : u = t := Option.some.inj h
    have hmetric : u.metric = k := by simpa using List.find?_some hfind
    have hmem : u ∈ batch := List.mem_reverse.1 (List.mem_of_find?_eq_some hfind)
    exact ⟨hmetric, hmetric ▸ hknown u hmem⟩

/-- The thresholds in force, as the entries of their map. -/
theorem thresholdList_eq (d : Dashboard) : d.thresholdList = d.thresholds.toList.map Prod.snd := by
  simp [thresholdList, TreeMap.values, DTreeMap.values, TreeMap.toList, DTreeMap.Const.toList,
    DTreeMap.Internal.Impl.values_eq_map_snd, DTreeMap.Internal.Impl.Const.toList_eq_toListModel_map]

/-- A threshold is in force exactly when its metric holds it. -/
theorem Consistent.mem_thresholdList (hc : d.Consistent) {t : Threshold} :
    t ∈ d.thresholdList ↔ d.thresholds[t.metric]? = some t := by
  rw [thresholdList_eq, List.mem_map]
  constructor
  · rintro ⟨⟨k, u⟩, hmem, rfl⟩
    have hget := TreeMap.mem_toList_iff_getElem?_eq_some.1 hmem
    rw [(hc k u hget).1]
    exact hget
  · intro h
    exact ⟨(t.metric, t), TreeMap.mem_toList_iff_getElem?_eq_some.2 h, rfl⟩

/-- The thresholds in force list their metrics in increasing order, each once. -/
theorem Consistent.thresholdList_sorted (hc : d.Consistent) :
    (d.thresholdList.map (·.metric)).Pairwise (· < ·) := by
  have hkeys : d.thresholdList.map (·.metric) = d.thresholds.keys := by
    rw [thresholdList_eq, List.map_map, ← TreeMap.map_fst_toList_eq_keys]
    refine List.map_congr_left fun p hmem => ?_
    exact (hc p.1 p.2 (TreeMap.mem_toList_iff_getElem?_eq_some.1 hmem)).1
  rw [hkeys]
  exact TreeMap.ordered_keys.imp fun h => compare_lt_iff_lt.1 h

/-- Every threshold in force is of a metric in `metrics`. -/
theorem Consistent.known_of_mem (hc : d.Consistent) {t : Threshold} (ht : t ∈ d.thresholdList) :
    t.metric ∈ metrics :=
  (hc _ _ (hc.mem_thresholdList.1 ht)).2

/-- A batch is refused at its first metric outside `metrics`, and the
dashboard stays as it was. -/
theorem updateThresholds_of_unknown {pre post : List Threshold} {bad : Threshold}
    (hsplit : batch = pre ++ bad :: post) (hpre : ∀ t ∈ pre, t.metric ∈ metrics)
    (hbad : bad.metric ∉ metrics) (d : Dashboard) :
    d.updateThresholds batch = (d, .error (.unknownMetric bad.metric)) := by
  have hfind : batch.find? (fun t => !metrics.contains t.metric) = some bad := by
    rw [hsplit, List.find?_append, find?_unknown_eq_none.2 hpre, Option.none_or,
      List.find?_cons_of_pos]
    simpa using hbad
  unfold updateThresholds
  rw [hfind]

/-- A batch of metrics in `metrics` is put in force on a consistent
dashboard, and the latest reading is evaluated against all thresholds then in
force. -/
theorem updateThresholds_of_known (hc : d.Consistent)
    (hknown : ∀ t ∈ batch, t.metric ∈ metrics) :
    let d' : Dashboard := { d with thresholds := batch.foldl (fun m t => m.insert t.metric t) d.thresholds }
    ∃ evs, d.updateThresholds batch = (d', .ok (.thresholdsUpdated d'.thresholdList evs)) ∧
      d.Evaluated d'.thresholdList evs := by
  intro d'
  have hlist : ∀ t ∈ d'.thresholdList, t.metric ∈ metrics :=
    fun t ht => (hc.upsert hknown).known_of_mem ht
  have hlatest : d'.latest? = d.latest? := rfl
  unfold updateThresholds
  rw [find?_unknown_eq_none.2 hknown]
  dsimp only
  -- the batch is stored; then the latest reading, if any, is evaluated against
  -- the thresholds now in force
  split
  · next log hlog =>
    obtain ⟨evs, hevs, hall⟩ := log.evaluateAll_ok hlist
    simp only [d'] at hevs hlatest
    rw [hevs]
    refine ⟨evs, rfl, fun hnil => ?_, fun log' h => ?_⟩
    · simp [latest?, hnil] at hlog
    · rw [← hlatest, hlog] at h
      cases h
      exact ⟨hevs, hall⟩
  · next hlog =>
    refine ⟨[], rfl, fun _ => rfl, fun log h => ?_⟩
    simp only [d'] at hlatest
    rw [← hlatest, hlog] at h
    cases h

end Dashboard

namespace Server

variable {s : Server} {batch : List Threshold}

/-- Every call on the publisher keeps the thresholds consistent. -/
theorem consistent_publish (hc : s.dashboard.Consistent) (c : Publication) :
    (s.publish c).1.dashboard.Consistent := by
  cases c with
  | thresholds links batch =>
    simp only [publish, updateThresholds_dashboard]
    -- the batch is either refused, or stored with every metric known
    rcases Dashboard.updateThresholds_fst s.dashboard batch with hsame | ⟨hknown, hstored⟩
    · rw [hsame]
      exact hc
    · rw [hstored]
      exact hc.upsert hknown
  | _ => exact hc

theorem consistent_publishAll (calls : List Publication) :
    ∀ s : Server, s.dashboard.Consistent → (s.publishAll calls).dashboard.Consistent := by
  induction calls with
  | nil => exact fun _ hc => hc
  | cons c rest ih => exact fun s hc => ih (s.publish c).1 (consistent_publish hc c)

/-- A batch with a metric outside `metrics` is refused at its first such
metric, and nothing changes. -/
theorem updateThresholds_of_unknown {pre post : List Threshold} {bad : Threshold}
    (hsplit : batch = pre ++ bad :: post) (hpre : ∀ t ∈ pre, t.metric ∈ metrics)
    (hbad : bad.metric ∉ metrics) (links : ConnId → Link) :
    s.updateThresholds links batch = (s, .error (.unknownMetric bad.metric)) := by
  simp only [updateThresholds, Dashboard.updateThresholds_of_unknown hsplit hpre hbad]

/-- A batch of metrics in `metrics` is put in force, and its broadcast goes
out. -/
theorem updateThresholds_of_known (hc : s.dashboard.Consistent)
    (hknown : ∀ t ∈ batch, t.metric ∈ metrics) (links : ConnId → Link) :
    let s' : Server := { s with dashboard := { s.dashboard with
      thresholds := batch.foldl (fun m t => m.insert t.metric t) s.dashboard.thresholds } }
    ∃ evs sends, s.updateThresholds links batch = (s', .ok sends) ∧
      s'.announce links (.thresholdsUpdated s'.dashboard.thresholdList evs) = .ok sends ∧
      s.dashboard.Evaluated s'.dashboard.thresholdList evs := by
  intro s'
  obtain ⟨evs, hupd, hev⟩ := Dashboard.updateThresholds_of_known hc hknown
  obtain ⟨sends, hsends⟩ := s'.announce_ok links (.thresholdsUpdated s'.dashboard.thresholdList evs)
  refine ⟨evs, sends, ?_, hsends, hev⟩
  simp only [updateThresholds, hupd]
  rw [hsends]

/-- On a consistent dashboard a batch fails exactly when it names a metric
outside `metrics`. -/
theorem updateThresholds_error_iff (hc : s.dashboard.Consistent) (links : ConnId → Link) :
    (∃ f, (s.updateThresholds links batch).2 = .error f) ↔
      ∃ t ∈ batch, t.metric ∉ metrics := by
  by_cases hknown : ∀ t ∈ batch, t.metric ∈ metrics
  · obtain ⟨evs, sends, hupd, -⟩ := updateThresholds_of_known hc hknown links
    rw [hupd]
    simp only [reduceCtorEq, exists_false, false_iff, not_exists, not_and, not_not]
    exact hknown
  · -- the first metric outside the list stops the batch
    obtain ⟨bad, hfind⟩ := Option.ne_none_iff_exists'.1 (mt Dashboard.find?_unknown_eq_none.1 hknown)
    obtain ⟨hbad, pre, post, hsplit, hpre⟩ := List.find?_eq_some_iff_append.1 hfind
    have hpre' : ∀ t ∈ pre, t.metric ∈ metrics := fun t ht => by
      simpa using hpre t ht
    have hbad' : bad.metric ∉ metrics := by
      simpa using hbad
    rw [updateThresholds_of_unknown hsplit hpre' hbad' links]
    exact ⟨fun _ => ⟨bad, by simp [hsplit], hbad'⟩, fun _ => ⟨_, rfl⟩⟩

end Server

/-- For a publisher of any capacity, after every sequence of calls: each
threshold in force is kept under its own metric, one of `metrics`, and
the list in force is ordered by metric with one entry each.  A batch is then
refused exactly when it names a metric outside `metrics`; it is refused at the
first such metric in batch order, and nothing changes and nothing is sent.
Otherwise only the thresholds change, each metric now holding the batch's last
threshold of it or else what it held, and the broadcast of the thresholds then
in force goes out, evaluating each of them against the latest reading, in
order and without fail, or nothing when there is no reading. -/
theorem threshold_batches_checked_then_upserted (capacity : Nat) (calls : List Publication) :
    let s := (Server.empty capacity).publishAll calls
    s.dashboard.Consistent ∧
      (s.dashboard.thresholdList.map (·.metric)).Pairwise (· < ·) ∧
      (∀ t, t ∈ s.dashboard.thresholdList ↔ s.dashboard.thresholds[t.metric]? = some t) ∧
      ∀ (links : ConnId → Link) (batch : List Threshold),
        ((∃ t ∈ batch, t.metric ∉ metrics) ↔
          ∃ f, (s.updateThresholds links batch).2 = .error f) ∧
        (∀ pre bad post, batch = pre ++ bad :: post → (∀ t ∈ pre, t.metric ∈ metrics) →
          (bad.metric ∉ metrics) →
            s.updateThresholds links batch = (s, .error (.unknownMetric bad.metric))) ∧
        ((∀ t ∈ batch, t.metric ∈ metrics) →
          let s' := (s.updateThresholds links batch).1
          s' = { s with dashboard := { s.dashboard with thresholds := s'.dashboard.thresholds } } ∧
            (∀ k, s'.dashboard.thresholds[k]? =
              (batch.reverse.find? (·.metric == k)).or s.dashboard.thresholds[k]?) ∧
            ∃ evs sends, (s.updateThresholds links batch).2 = .ok sends ∧
              s'.announce links (.thresholdsUpdated s'.dashboard.thresholdList evs) = .ok sends ∧
              s.dashboard.Evaluated s'.dashboard.thresholdList evs) := by
  intro s
  have hc : s.dashboard.Consistent :=
    Server.consistent_publishAll calls _ (Dashboard.consistent_empty capacity)
  refine ⟨hc, hc.thresholdList_sorted, fun t => hc.mem_thresholdList,
    fun links batch => ⟨(Server.updateThresholds_error_iff hc links).symm,
      fun pre bad post hsplit hpre hbad => Server.updateThresholds_of_unknown hsplit hpre hbad links,
      fun hknown => ?_⟩⟩
  obtain ⟨evs, sends, hupd, hsends, hev⟩ := Server.updateThresholds_of_known hc hknown links
  rw [hupd]
  exact ⟨rfl, fun k => Dashboard.getElem?_foldl_insert batch _ k, evs, sends, rfl, hsends, hev⟩

end Hub

end TopicHub
