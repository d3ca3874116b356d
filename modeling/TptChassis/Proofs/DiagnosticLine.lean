import Mathlib.Data.List.Forall2
import TptChassis.Diagnostics
import TptChassis.Proofs.SimBuses
import TptChassis.Proofs.SimTrips
import TptChassis.Proofs.UdsAnswers

/-! Diagnostics over the simulated bus are diagnostics at the server itself. The
abstract line has no bus: requests queue in front of the server, and a fault of the
bus keeps them away from it. -/

namespace TptChassis.Proofs.DiagnosticLine
open Slices Bus Sim Uds Diagnostics BusGate SimDelivery SimTrips UdsEffects UdsAnswers

variable {D : Type}

/-- What the server answers to a payload, with the eight bytes of a frame for it. -/
def answer [UdsDataProvider D] (server : UdsServer D) (payload : List UInt8) : Checked (Option (List UInt8) × UdsServer D) := do
  let handled ← server.handle payload (List.replicate 8 0)
  return (handled.result.map handled.response.take, handled.server)

/-- `waiting` are the payloads that arrived at the server before the first request. -/
structure Line (D : Type) where
  off : Bool
  waiting : List (List UInt8)
  server : UdsServer D

/-- Each request joins the queue, and the server answers the oldest payload in it.
A request that does not fit in a frame is a panic. -/
def Line.exchange [UdsDataProvider D] (line : Line D) (request : List UInt8) : Checked (Option (Buffer UInt8 8) × Line D) :=
  if canMaxDlc < request.length then none
  else if line.off then some (none, line)
  else
    match line.waiting ++ [request] with
    | [] => none
    | payload :: rest => do
      let (reply, server) ← answer line.server payload
      return (reply.bind fun bytes => (Buffer.fill 8 0).copy 0 bytes, { line with waiting := rest, server })

def lineMachine (D : Type) [UdsDataProvider D] : Machine (Line D) BenchEvent BenchOutcome where
  step line event :=
    match event with
    | .exchange request => do
      let (response, line) ← line.exchange request
      return (.exchanged response, line)
    | .setBusOff off => some (.switched, { line with off })

/-- Two nodes of a network, which may have others: nothing waits at the tester, and
the payloads at the server leave room for one more. -/
structure Linked (tester ecu : Nat) (network : SimCanNetwork) (off : Bool) (waiting : List (List UInt8)) : Prop where
  apart : ecu ≠ tester
  asks : tester < network.nodes.length
  answers : ecu < network.nodes.length
  switched : network.down = off
  quiet : queue network tester = []
  waits : List.Forall₂ (fun frame payload => frame.payload = some payload) (queue network ecu) waiting
  room : waiting.length < simRxQueueLen

/-- The response lies in the buffer, which keeps its length. -/
theorem handled_response [UdsDataProvider D] {server : UdsServer D} {payload : List UInt8} {handled : Handled D} {n : Nat}
    (done : server.handle payload (List.replicate 8 0) = some handled) (answered : handled.result = some n) :
    n ≤ 8 ∧ handled.response.length = 8 := by
  have kept {bytes : List UInt8} (room : bytes.length ≤ (List.replicate 8 (0 : UInt8)).length) :
      (overwrite (List.replicate 8 0) 0 bytes).length = 8 :=
    length_overwrite (Nat.le_trans (Nat.le_of_eq (Nat.zero_add _)) room)
  cases handles_replies (handle_cases done) with
  | silent unanswered => cases unanswered.symm.trans answered
  | negative nrc asked refused room written =>
    cases refused.symm.trans answered
    exact ⟨by decide, written ▸ kept room⟩
  | positive asked known granted length room written =>
    cases granted.symm.trans answered
    exact ⟨room, written ▸ kept room⟩

section
variable {tester ecu : Nat} {network : SimCanNetwork} {waiting : List (List UInt8)}

/-- The request on its way: it is queued behind what waits at the server, whose
oldest frame is then received. -/
theorem request_arrives (linked : Linked tester ecu network false waiting) {request : List UInt8}
    (short : request.length ≤ canMaxDlc) :
    ∃ frame sent incoming payload rest received, standardFrame 0x7E0 request = some frame ∧
      (SimCanNode.bus tester).transmit network frame = some (.ok (), sent) ∧ (SimCanNode.bus ecu).canReceive sent = true ∧
      (SimCanNode.bus ecu).receive sent = some (.ok incoming, received) ∧ incoming.payload = some payload ∧
      waiting ++ [request] = payload :: rest ∧ Linked tester ecu received false rest := by
  obtain ⟨frame, built, valid, carries, _⟩ := standardFrame_eq 0x7E0 (by decide) short
  have space : (queue network ecu).length < simRxQueueLen := linked.waits.length_eq ▸ linked.room
  obtain ⟨sent, sends, arrived, quiet, powered, size⟩ :=
    send_reaches frame linked.switched linked.asks linked.answers linked.apart space
  have queued : List.Forall₂ (fun frame payload => frame.payload = some payload) (queue sent ecu)
      (waiting ++ [request]) := by
    rw [arrived]
    exact List.rel_append linked.waits (.cons carries .nil)
  have count : (waiting ++ [request]).length = waiting.length + 1 := List.length_append
  generalize waiting ++ [request] = payloads at queued count
  generalize found : queue sent ecu = frames at queued
  cases queued with
  | nil => cases count
  | @cons incoming payload others rest read later =>
    obtain ⟨received, takes, left, kept, still, same⟩ := recv_takes (size ▸ linked.answers) found
    refine ⟨frame, sent, incoming, payload, rest, received, built, ?_, ?_, ?_, read, rfl, ?_⟩
    · rw [transmit_eq tester network valid, sends]
    · exact (SimBuses.canReceive_iff sent ecu).mpr ⟨incoming, received, congrArg some takes⟩
    · rw [receive_eq, takes]
    · refine ⟨linked.apart, ?_, ?_, still.trans powered, ?_, left ▸ later, ?_⟩
      · exact (same.trans size) ▸ linked.asks
      · exact (same.trans size) ▸ linked.answers
      · rw [kept tester (Ne.symm linked.apart), quiet, linked.quiet]
      · have bounded := linked.room
        simp only [List.length_cons] at count
        omega

/-- The response on its way: nothing waits at the tester before it. -/
theorem response_arrives (linked : Linked tester ecu network false waiting) {bytes : List UInt8}
    (short : bytes.length ≤ canMaxDlc) :
    ∃ frame sent outFrame after, standardFrame 0x7E8 bytes = some frame ∧
      (SimCanNode.bus ecu).transmit network frame = some (.ok (), sent) ∧
      (SimCanNode.bus tester).receive sent = some (.ok outFrame, after) ∧ outFrame.payload = some bytes ∧
      Linked tester ecu after false waiting := by
  obtain ⟨frame, built, valid, carries, _⟩ := standardFrame_eq 0x7E8 (by decide) short
  have space : (queue network tester).length < simRxQueueLen := by
    rw [linked.quiet]
    decide
  obtain ⟨sent, sends, arrived, own, powered, size⟩ :=
    send_reaches frame linked.switched linked.answers linked.asks (Ne.symm linked.apart) space
  rw [linked.quiet, List.nil_append] at arrived
  obtain ⟨after, takes, left, kept, still, same⟩ := recv_takes (size ▸ linked.asks) arrived
  refine ⟨frame, sent, frame, after, built, ?_, ?_, carries, ?_⟩
  · rw [transmit_eq ecu network valid, sends]
  · rw [receive_eq, takes]
  · refine ⟨linked.apart, ?_, ?_, still.trans powered, left, ?_, linked.room⟩
    · exact (same.trans size) ▸ linked.asks
    · exact (same.trans size) ▸ linked.answers
    · rw [kept ecu linked.apart, own]
      exact linked.waits

end

variable [UdsDataProvider D]

/-- The bench that a line stands for. -/
def Related (tester ecu : Nat) (bench : Bench D) (line : Line D) : Prop :=
  Linked tester ecu bench.network line.off line.waiting ∧ bench.server = line.server

theorem answer_cases {server : UdsServer D} {payload : List UInt8} {handled : Handled D}
    (done : server.handle payload (List.replicate 8 0) = some handled) :
    answer server payload = some (handled.result.map handled.response.take, handled.server) := by
  rw [answer, done]
  rfl

theorem exchange_agrees {tester ecu : Nat} {bench : Bench D} {line : Line D} (related : Related tester ecu bench line)
    (request : List UInt8) :
    Machine.Agree (Related tester ecu) (exchange tester ecu bench request) (line.exchange request) := by
  obtain ⟨linked, same⟩ := related
  unfold Line.exchange
  split
  next long =>
    rw [exchange, standardFrame_long (by decide) long]
    exact .panic
  next short =>
    have fits := Nat.le_of_not_lt short
    split
    next off =>
      obtain ⟨frame, built, valid, carries, _⟩ := standardFrame_eq 0x7E0 (by decide) fits
      rw [exchange, built, Option.bind_eq_bind, Option.bind_some, transmit_eq tester _ valid,
        send_refused tester frame (linked.switched.trans off)]
      exact .answer none ⟨linked, same⟩
    next on =>
      have powered : line.off = false := Bool.eq_false_iff.mpr on
      rw [powered] at linked
      obtain ⟨frame, sent, incoming, payload, rest, received, built, sends, _, takes, carries, queued, linked⟩ :=
        request_arrives linked fits
      rw [queued, ← same]
      simp only [exchange, built, Option.bind_eq_bind, Option.bind_some, sends, takes, carries]
      cases done : bench.server.handle payload (List.replicate 8 0) with
      | none =>
        rw [answer, done]
        exact .panic
      | some handled =>
        rw [answer_cases done, Option.bind_some, Option.bind_some]
        cases answered : handled.result with
        | none =>
          refine .answer none ?_
          exact ⟨powered.symm ▸ linked, rfl⟩
        | some n =>
          obtain ⟨bounded, size⟩ := handled_response done answered
          have short : (handled.response.take n).length ≤ canMaxDlc := by
            rw [List.length_take]
            exact Nat.le_trans (Nat.min_le_left _ _) bounded
          obtain ⟨reply, sent, outFrame, after, built, sends, takes, carries, linked⟩ := response_arrives linked short
          obtain ⟨out, copied, _⟩ := @Buffer.copy_fill _ 8 0 _ short
          simp only [Option.bind_some, slice_front (size.symm ▸ bounded), built, sends, takes, carries, copied,
            Option.map_some]
          refine .answer (some out) ?_
          exact ⟨powered.symm ▸ linked, rfl⟩

theorem step_agrees {tester ecu : Nat} (event : BenchEvent) (bench : Bench D) (line : Line D)
    (related : Related tester ecu bench line) :
    Machine.Agree (Related tester ecu) ((benchMachine D tester ecu).step bench event) ((lineMachine D).step line event) := by
  cases event with
  | exchange request =>
    have both := exchange_agrees related request
    simp only [benchMachine, lineMachine]
    generalize exchange tester ecu bench request = first at both
    generalize line.exchange request = second at both
    cases both with
    | panic => exact .panic
    | answer response kept => exact .answer _ kept
  | setBusOff off =>
    obtain ⟨linked, same⟩ := related
    exact .answer _ ⟨⟨linked.apart, linked.asks, linked.answers, rfl, linked.quiet, linked.waits, linked.room⟩, same⟩

/-- Whatever else is attached to the bus, and whatever waits at the server when its
queue has room, exchanging requests and switching the bus gives the responses, the
panics and the server that the line gives. -/
theorem bench_is_line (tester ecu : Nat) (bench : Bench D) (waiting : List (List UInt8))
    (linked : Linked tester ecu bench.network bench.network.down waiting) (events : List BenchEvent) :
    ((benchMachine D tester ecu).run bench events).map (fun result => (result.1, result.2.server)) =
      ((lineMachine D).run ⟨bench.network.down, waiting, bench.server⟩ events).map
        (fun result => (result.1, result.2.server)) := by
  have both := Machine.run_agree events (fun event _ => step_agrees event) bench
    ⟨bench.network.down, waiting, bench.server⟩ ⟨linked, rfl⟩
  exact both.map_eq Bench.server Line.server fun _ _ related => related.2

/-- Three nodes, and at the second a request that came before any exchange. -/
def strayNetwork : SimCanNetwork :=
  ⟨[((), []), ((), [⟨⟨0x7E0, false⟩, (Buffer.fill 8 0).set 0 0x3E, 2⟩]), ((), [])], false⟩

theorem stray_linked : Linked 0 1 strayNetwork false [[0x3E, 0x00]] :=
  ⟨by decide, by decide, by decide, rfl, rfl, .cons rfl .nil, by decide⟩

/-- Every response comes one exchange late, and none while the bus is off. -/
theorem bench_is_line_stray :
    ((benchMachine Calibration 0 1).run ⟨strayNetwork, .new ⟨.fill 8 0⟩⟩
      [.exchange [0x27, 0x01], .setBusOff true, .exchange [0x3E, 0x00], .setBusOff false, .exchange [0x3E, 0x00]]).map
        (fun result => (result.1, result.2.server)) =
      some ([.exchanged (some ⟨[0x7E, 0, 0, 0, 0, 0, 0, 0], rfl⟩), .switched, .exchanged none, .switched,
        .exchanged (some ⟨[0x67, 0x01, 0xAA, 0, 0, 0, 0, 0], rfl⟩)],
        { UdsServer.new ⟨.fill 8 0⟩ with testerPresentPending := some 5 }) := by
  rw [bench_is_line 0 1 _ _ stray_linked]
  rfl

/-- A server that is asked directly, and must answer. -/
def strictAnswer (server : UdsServer D) (request : List UInt8) : Checked (List UInt8 × UdsServer D) :=
  if canMaxDlc < request.length then none
  else do
    let (reply, server) ← answer server request
    let bytes ← reply
    return (bytes, server)

/-- The bench of a server that is asked directly. -/
def Direct (tester ecu : Nat) (bench : Bench D) (server : UdsServer D) : Prop :=
  Linked tester ecu bench.network false [] ∧ bench.server = server

theorem roundTrip_agrees {tester ecu : Nat} {ready : SimCanNetwork → Bool}
    {read : List UInt8 → Nat → Checked (List UInt8)}
    (asserts : ∀ network, (SimCanNode.bus ecu).canReceive network = true → ready network = true)
    (reads : ∀ bytes, read bytes bytes.length = some bytes) (request : List UInt8) (bench : Bench D)
    (server : UdsServer D) (direct : Direct tester ecu bench server) :
    Machine.Agree (Direct tester ecu) (roundTrip ready read tester ecu bench request) (strictAnswer server request) := by
  obtain ⟨linked, rfl⟩ := direct
  unfold strictAnswer
  split
  next long =>
    rw [roundTrip, standardFrame_long (by decide) long]
    exact .panic
  next short =>
    obtain ⟨frame, sent, incoming, payload, rest, received, built, sends, told, takes, carries, queued, linked⟩ :=
      request_arrives linked (Nat.le_of_not_lt short)
    obtain ⟨rfl, rfl⟩ := List.cons.inj queued
    simp only [roundTrip, built, Option.bind_eq_bind, Option.bind_some, sends, unwrap, asserts sent told, if_true, takes,
      carries]
    cases done : bench.server.handle request (List.replicate 8 0) with
    | none =>
      rw [answer, done]
      exact .panic
    | some handled =>
      rw [answer_cases done, Option.bind_some, Option.bind_some]
      cases answered : handled.result with
      | none => exact .panic
      | some n =>
        obtain ⟨bounded, size⟩ := handled_response done answered
        have length : (handled.response.take n).length = n := by
          rw [List.length_take, size, Nat.min_eq_left bounded]
        have short : (handled.response.take n).length ≤ canMaxDlc := by
          rw [length]
          exact bounded
        obtain ⟨reply, sent, outFrame, after, built, sends, takes, carries, linked⟩ := response_arrives linked short
        have whole := reads (handled.response.take n)
        rw [length] at whole
        simp only [Option.bind_some, slice_front (size.symm ▸ bounded), built, sends, takes, carries, whole,
          Option.map_some]
        refine .answer _ ?_
        exact ⟨linked, rfl⟩

def serverMachine (D : Type) [UdsDataProvider D] : Machine (UdsServer D) (List UInt8) (List UInt8) := ⟨strictAnswer⟩

theorem requests_direct {tester ecu : Nat} {request : Bench D → List UInt8 → Checked (List UInt8 × Bench D)}
    (agrees : ∀ data bench server, Direct tester ecu bench server →
      Machine.Agree (Direct tester ecu) (request bench data) (strictAnswer server data))
    (bench : Bench D) (linked : Linked tester ecu bench.network false []) (requests : List (List UInt8)) :
    ((requestMachine request).run bench requests).map (fun result => (result.1, result.2.server)) =
      (serverMachine D).run bench.server requests := by
  have both := @Machine.run_agree _ _ _ _ (requestMachine request) (serverMachine D) (Direct tester ecu) requests
    (fun data _ => agrees data) bench bench.server ⟨linked, rfl⟩
  exact (both.map_eq Bench.server id fun _ _ direct => direct.2).trans Option.map_id'

/-- The requests of the example and of `cmd_diag` are requests made to the server
itself, whatever else is attached: with the same responses, server and panics. -/
theorem diagnostics_direct (tester ecu : Nat) (bench : Bench D) (linked : Linked tester ecu bench.network false [])
    (requests : List (List UInt8)) :
    ((requestMachine (sendRequest tester ecu)).run bench requests).map (fun result => (result.1, result.2.server)) =
      (serverMachine D).run bench.server requests ∧
    ((requestMachine (diagRequest tester ecu)).run bench requests).map (fun result => (result.1, result.2.server)) =
      (serverMachine D).run bench.server requests := by
  constructor
  · apply requests_direct _ bench linked
    exact roundTrip_agrees (fun _ told => told) fun _ => rfl
  · apply requests_direct _ bench linked
    apply roundTrip_agrees (fun _ _ => rfl)
    intro bytes
    rw [slice_front (Nat.le_refl _), List.take_length]

theorem diagnostics_direct_reads :
    ((requestMachine (sendRequest 1 0)).run ⟨⟨[((), []), ((), [])], false⟩, UdsServer.new (⟨.fill 32 7⟩ : MockData)⟩
      [[0x10, 0x03], [0x22, 0x00, 0x01]]).map (fun result => (result.1, result.2.server)) =
      some ([[0x50, 0x03, 0x00, 0x32], [0x62, 0x00, 0x01, 7, 7]],
        { UdsServer.new ⟨.fill 32 7⟩ with session := .extended }) := by
  rw [(diagnostics_direct 1 0 _ ⟨by decide, by decide, by decide, rfl, rfl, .nil, by decide⟩ _).1]
  rfl

example : cmdDiag = some [([0x10, 0x03], [0x50, 0x03, 0x00, 0x32]), ([0x22, 0x00, 0x01], [0x62, 0x00, 0x01, 0, 0]),
    ([0x3E, 0x00], [0x7E, 0x00])] := rfl

end TptChassis.Proofs.DiagnosticLine
