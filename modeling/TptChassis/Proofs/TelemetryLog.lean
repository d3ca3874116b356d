import TptChassis.Library.Rings
import TptChassis.Proofs.InterlockRefinement

/-! The telemetry ring keeps the newest records of what was pushed. The ring of
an interlock therefore tells the latest of its switches, and in what order. -/

namespace TptChassis.Proofs.TelemetryLog
open Safety Autonomy InterlockRefinement Rings Slices

variable {N : Nat}

/-- The ring holds the newest records of a log. -/
structure Keeps (ring : TelemetryRing N) (log : List TelemetryRecord) : Prop where
  positioned : Positioned ring.buf.elements ring.head ring.len
  held : contents ring.buf.elements ring.head ring.len = newest N log

theorem new_keeps (room : 0 < N) : Keeps (TelemetryRing.new : TelemetryRing N) [] where
  positioned := by
    constructor
    · rw [Buffer.sized]
      exact room
    · exact Nat.zero_le _
    · exact fun _ => rfl
  held := by
    have partly : (TelemetryRing.new : TelemetryRing N).len ≠ (TelemetryRing.new : TelemetryRing N).buf.elements.length := by
      rw [Buffer.sized]
      exact Nat.ne_of_lt room
    rw [contents, if_neg partly, newest, List.drop_nil]
    rfl

theorem push_keeps {ring : TelemetryRing N} {log : List TelemetryRecord} (keeps : Keeps ring log) (record : TelemetryRecord) :
    ∃ pushed, ring.push record = some pushed ∧ Keeps pushed (log ++ [record]) := by
  have sized := ring.buf.sized
  have inside : ring.head < N := Nat.lt_of_lt_of_eq keeps.positioned.inside sized
  refine ⟨_, dif_pos inside, ?_, ?_⟩
  · have positioned := keeps.positioned.push record
    rw [sized] at positioned
    exact positioned
  · have held := contents_push keeps.positioned record
    rw [sized, keeps.held, newest_concat] at held
    exact held

theorem pushes_keep {ring : TelemetryRing N} {log : List TelemetryRecord} (keeps : Keeps ring log)
    (records : List TelemetryRecord) :
    ∃ pushed, records.foldlM TelemetryRing.push ring = some pushed ∧ Keeps pushed (log ++ records) := by
  induction records generalizing ring log with
  | nil => exact ⟨ring, rfl, by rwa [List.append_nil]⟩
  | cons record records ih =>
    obtain ⟨next, pushed, kept⟩ := push_keeps keeps record
    obtain ⟨last, folded, kept'⟩ := ih kept
    refine ⟨last, ?_, ?_⟩
    · rw [List.foldlM_cons, pushed]
      exact folded
    · rwa [List.append_assoc] at kept'

theorem Keeps.len {ring : TelemetryRing N} {log : List TelemetryRecord} (keeps : Keeps ring log) :
    ring.len = min log.length N := by
  rw [← length_newest, ← keeps.held, length_contents keeps.positioned]

theorem Keeps.iter {ring : TelemetryRing N} {log : List TelemetryRecord} (keeps : Keeps ring log) :
    ring.iter = some (newest N log) := by
  have length := length_contents keeps.positioned
  rw [keeps.held] at length
  have reads : ∀ index < (newest N log).length,
      ring.buf.elements[((if ring.len = N then ring.head else 0) + index) % N]? = (newest N log)[index]? := by
    intro index inside
    have found := getElem?_contents keeps.positioned (length ▸ inside)
    rwa [ring.buf.sized, keeps.held] at found
  have read := mapM_range reads
  rw [length] at read
  exact read

def transition : InterlockCall → Option TelemetryRecord
  | .arm => some ⟨0, telemetryArm, 1⟩
  | .disarm => some ⟨0, telemetryDisarm, 1⟩
  | _ => none

/-- The audit trail of an interlock: what was switched, and how it was left. -/
structure Audited {S : Type u} (interlock : Interlock S) (log : List TelemetryRecord) : Prop where
  trail : Keeps interlock.events log
  latest : log.getLast?.map TelemetryRecord.code = some telemetryArm ↔ interlock.state = .armed

theorem new_audited {S : Type u} (stack : S) : Audited (Interlock.new stack) [] where
  trail := new_keeps (Nat.succ_pos 7)
  latest := iff_of_false nofun nofun

variable {S : Type u} [AutonomyStack S]

/-- A switch is recorded with the state it leaves. -/
theorem switch_audits {interlock : Interlock S} {log : List TelemetryRecord} (audited : Audited interlock log)
    {call : InterlockCall} {record : TelemetryRecord} (switches : transition call = some record) :
    ∃ next, interlock.call call = some (.switched, next) ∧ Audited next (log ++ [record]) := by
  obtain ⟨events, pushed, kept⟩ := push_keeps audited.trail record
  have newest : (log ++ [record]).getLast?.map TelemetryRecord.code = some record.code := by
    rw [List.getLast?_concat]
    rfl
  cases call with
  | arm =>
    cases switches
    refine ⟨{ interlock with state := .armed, events }, ?_, kept, ?_⟩
    · simp only [Interlock.call, Interlock.arm, pushed]
      rfl
    · rw [newest]
      exact iff_of_true rfl rfl
  | disarm =>
    cases switches
    refine ⟨{ interlock with state := .disarmed, events }, ?_, kept, ?_⟩
    · simp only [Interlock.call, Interlock.disarm, pushed]
      rfl
    · rw [newest]
      constructor
      · intro same
        cases same
      · intro same
        cases same
  | _ => cases switches

theorem call_unswitched {interlock next : Interlock S} {call : InterlockCall} {reply : InterlockReply}
    (unswitched : transition call = none) (called : interlock.call call = some (reply, next)) :
    ∃ stack, next = { interlock with stack } := by
  cases passes : killSwitch.pass interlock.state call with
  | some behind =>
    obtain ⟨_, passed⟩ := call_passed interlock passes
    obtain ⟨result, _, same⟩ := Option.map_eq_some_iff.mp (passed.symm.trans called)
    cases same
    exact ⟨_, rfl⟩
  | none =>
    cases position : interlock.state with
    | armed =>
      rw [position] at passes
      cases call with
      | arm => cases unswitched
      | disarm => cases unswitched
      | _ => cases passes
    | disarmed =>
      rw [position] at passes
      cases call with
      | arm => cases unswitched
      | disarm => cases unswitched
      | nextCommand path state =>
        simp only [Interlock.call, nextCommandBy_eq, nextCommand_disarmed position] at called
        cases called
        exact ⟨interlock.stack, by rw [← position]⟩
      | hasControl path =>
        simp only [Interlock.call, hasControlBy_eq, hasControl_disarmed position] at called
        cases called
        exact ⟨interlock.stack, by rw [← position]⟩
      | _ => cases passes

theorem call_audits {interlock next : Interlock S} {log : List TelemetryRecord} (audited : Audited interlock log)
    {call : InterlockCall} {reply : InterlockReply} (called : interlock.call call = some (reply, next)) :
    Audited next (log ++ (transition call).toList) := by
  cases switches : transition call with
  | some record =>
    obtain ⟨after, switched, kept⟩ := switch_audits audited switches
    cases switched.symm.trans called
    exact kept
  | none =>
    obtain ⟨stack, rfl⟩ := call_unswitched switches called
    rw [Option.toList_none, List.append_nil]
    exact ⟨audited.trail, audited.latest⟩

theorem run_audits {interlock last : Interlock S} {log : List TelemetryRecord} (audited : Audited interlock log)
    {calls : List InterlockCall} {replies : List InterlockReply}
    (ran : (Safety.machine S).run interlock calls = some (replies, last)) :
    Audited last (log ++ calls.filterMap transition) := by
  induction calls generalizing interlock log replies with
  | nil =>
    cases ran
    rwa [List.filterMap_nil, List.append_nil]
  | cons call calls ih =>
    obtain ⟨reply, next, later, called, rest, _⟩ := Machine.run_cases ran
    have kept := ih (call_audits audited called) rest
    rw [List.append_assoc] at kept
    cases switches : transition call with
    | some record =>
      rw [switches] at kept
      rwa [List.filterMap_cons_some switches]
    | none =>
      rw [switches] at kept
      rwa [List.filterMap_cons_none switches]

theorem switches_run (interlock : Interlock S) {log : List TelemetryRecord} (audited : Audited interlock log)
    {calls : List InterlockCall} (switches : ∀ call ∈ calls, call = .arm ∨ call = .disarm) :
    ∃ replies last, (Safety.machine S).run interlock calls = some (replies, last) := by
  induction calls generalizing interlock log with
  | nil => exact ⟨[], interlock, rfl⟩
  | cons call calls ih =>
    obtain ⟨first, others⟩ := List.forall_mem_cons.mp switches
    obtain ⟨record, recorded⟩ : ∃ record, transition call = some record := by
      rcases first with rfl | rfl
      · exact ⟨_, rfl⟩
      · exact ⟨_, rfl⟩
    obtain ⟨next, called, kept⟩ := switch_audits audited recorded
    obtain ⟨replies, last, ran⟩ := ih next kept others
    exact ⟨_, last, (Machine.run_cons calls called).trans (congrArg (Option.map _) ran)⟩

/-- A ring that has room keeps the newest of the records pushed to it, in order.
So does the ring of an interlock with its switches, of which none panics, and the
newest one tells whether it is armed. -/
theorem telemetry_log :
    (∀ N, 0 < N → ∀ records : List TelemetryRecord, ∃ ring : TelemetryRing N,
      records.foldlM TelemetryRing.push .new = some ring ∧
        ring.len = min records.length N ∧ ring.iter = some (newest N records)) ∧
    ∀ (S : Type u) [AutonomyStack S] (stack : S) (calls : List InterlockCall),
      (∀ replies interlock, (Safety.machine S).run (Interlock.new stack) calls = some (replies, interlock) →
        ∃ events, interlock.events.iter = some events ∧ events = newest 8 (calls.filterMap transition) ∧
          (events.getLast?.map TelemetryRecord.code = some telemetryArm ↔ interlock.state = .armed)) ∧
      ((∀ call ∈ calls, call = .arm ∨ call = .disarm) →
        ∃ replies interlock, (Safety.machine S).run (Interlock.new stack) calls = some (replies, interlock)) := by
  constructor
  · intro N room records
    obtain ⟨ring, pushed, keeps⟩ := pushes_keep (new_keeps room) records
    rw [List.nil_append] at keeps
    exact ⟨ring, pushed, keeps.len, keeps.iter⟩
  · intro S _ stack calls
    refine ⟨?_, switches_run _ (new_audited stack)⟩
    intro replies interlock ran
    have audited := run_audits (new_audited stack) ran
    rw [List.nil_append] at audited
    refine ⟨_, audited.trail.iter, rfl, ?_⟩
    rw [getLast?_newest (Nat.succ_pos 7)]
    exact audited.latest

theorem telemetry_log_wrapped :
    ∃ ring : TelemetryRing 2,
      [⟨1, telemetryArm, 1⟩, ⟨2, telemetryDisarm, 1⟩, ⟨3, telemetryArm, 1⟩].foldlM TelemetryRing.push .new =
          some ring ∧
        ring.len = 2 ∧ ring.iter = some [⟨2, telemetryDisarm, 1⟩, ⟨3, telemetryArm, 1⟩] :=
  telemetry_log.{0}.1 2 Nat.two_pos [⟨1, telemetryArm, 1⟩, ⟨2, telemetryDisarm, 1⟩, ⟨3, telemetryArm, 1⟩]

end TptChassis.Proofs.TelemetryLog
