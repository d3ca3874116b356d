import TptChassis.IsoTp

/-! What one frame can do to a reassembly link, and which frames stop it. The
only panic left to a payload of at most eight bytes is the reversed range of a
First Frame that ends before its length field does. -/

namespace TptChassis.Proofs.IsoTpFeed
open IsoTp Slices

variable {N : Nat}

def pciType : List UInt8 → Option UInt8
  | [] => none
  | first :: _ => some (first >>> 4)

def lowNibble (frame : List UInt8) : UInt8 := frame.headD 0 &&& 0x0F

/-- The data bytes a Single Frame declares. -/
def singleData (frame : List UInt8) : List UInt8 := (frame.drop 1).take (lowNibble frame).toNat

/-- The message length a First Frame declares. -/
def messageLength (frame : List UInt8) : Nat := IsoTpLink.declaredLength (frame.headD 0) frame

def firstData (frame : List UInt8) : List UInt8 := frame.drop 2

def consecutiveData (frame : List UInt8) : List UInt8 := frame.drop 1

/-- Everything a fed frame can do to a link that survives it. -/
inductive Feeds (link : IsoTpLink N) (frame : List UInt8) :
    Except IsoTpError IsoTpEvent → IsoTpLink N → Prop where
  | rejected (error : IsoTpError) : Feeds link frame (.error error) link
  | overflowed (type : pciType frame = some 2) (running : link.receiving = true)
      (next : lowNibble frame = link.sn)
      (long : link.total < link.filled + (consecutiveData frame).length) :
      Feeds link frame (.error .overflow) { link with sn := (link.sn + 1) &&& 0x0F }
  | single {buf : Buffer UInt8 N} (type : pciType frame = some 0)
      (declared : 0 < (lowNibble frame).toNat ∧ (lowNibble frame).toNat ≤ isotpSfMax ∧
        (lowNibble frame).toNat < frame.length)
      (copied : link.buf.copy 0 (singleData frame) = some buf) :
      Feeds link frame (.ok (.complete (singleData frame))) { link with buf, receiving := false }
  | first {buf : Buffer UInt8 N} (type : pciType frame = some 1) (whole : 2 ≤ frame.length)
      (declared : isotpFfMax < messageLength frame ∧ messageLength frame ≤ N)
      (copied : link.buf.copy 0 (firstData frame) = some buf) :
      Feeds link frame (.ok .needFlowControl)
        { buf, total := messageLength frame, filled := (firstData frame).length, sn := 1, receiving := true }
  | continued {buf : Buffer UInt8 N} (type : pciType frame = some 2) (running : link.receiving = true)
      (next : lowNibble frame = link.sn)
      (short : link.filled + (consecutiveData frame).length < link.total)
      (copied : link.buf.copy link.filled (consecutiveData frame) = some buf) :
      Feeds link frame (.ok .incomplete)
        { link with buf, filled := link.filled + (consecutiveData frame).length, sn := (link.sn + 1) &&& 0x0F }
  | completed {buf : Buffer UInt8 N} (type : pciType frame = some 2) (running : link.receiving = true)
      (next : lowNibble frame = link.sn)
      (full : link.filled + (consecutiveData frame).length = link.total)
      (copied : link.buf.copy link.filled (consecutiveData frame) = some buf) :
      Feeds link frame (.ok (.complete (buf.elements.take link.total)))
        { link with
          buf, filled := link.filled + (consecutiveData frame).length, sn := (link.sn + 1) &&& 0x0F,
          receiving := false }

private theorem slice_rest {items data : List UInt8} {first : Nat}
    (found : slice items first items.length = some data) : first ≤ items.length ∧ data = items.drop first := by
  obtain ⟨inside, _, rfl⟩ := slice_some found
  exact ⟨inside, List.take_of_length_le (by simp)⟩

private theorem single_cases {link after : IsoTpLink N} {first : UInt8} {rest : List UInt8} {output}
    (type : first >>> 4 = 0) (fed : link.feedSingle first (first :: rest) = some (output, after)) :
    Feeds link (first :: rest) output after := by
  simp only [IsoTpLink.feedSingle, Option.bind_eq_bind, Option.pure_def] at fed
  split at fed
  · cases fed
    exact .rejected _
  next declared =>
    rw [Option.bind_eq_some_iff] at fed
    obtain ⟨data, found, fed⟩ := fed
    rw [Option.bind_eq_some_iff] at fed
    obtain ⟨buf, copied, fed⟩ := fed
    rw [Option.bind_eq_some_iff] at fed
    obtain ⟨message, read, fed⟩ := fed
    have dataIs : data = singleData (first :: rest) := by
      simpa [singleData, lowNibble] using (slice_some found).2.2
    have messageIs : message = singleData (first :: rest) := by
      rw [(slice_some read).2.2, (Buffer.copy_elements copied).2, ← dataIs]
      have size : data.length = (first &&& 0x0F).toNat := by
        simp only [dataIs, singleData, lowNibble, List.drop_one, List.tail_cons, List.headD_cons, List.length_take]
        simp only [List.length_cons] at declared
        omega
      simpa [size] using take_overwrite_zero link.buf.elements data
    cases fed
    subst data message
    refine .single (by simp [pciType, type]) ?_ copied
    simp only [lowNibble, List.headD_cons, List.length_cons] at declared ⊢
    omega

private theorem first_cases {link after : IsoTpLink N} {first : UInt8} {rest : List UInt8} {output}
    (type : first >>> 4 = 1) (fed : link.feedFirst first (first :: rest) = some (output, after)) :
    Feeds link (first :: rest) output after := by
  simp only [IsoTpLink.feedFirst, Option.bind_eq_bind, Option.pure_def] at fed
  split at fed
  · cases fed
    exact .rejected _
  next declared =>
    rw [Option.bind_eq_some_iff] at fed
    obtain ⟨data, found, fed⟩ := fed
    rw [Option.bind_eq_some_iff] at fed
    obtain ⟨buf, copied, fed⟩ := fed
    obtain ⟨whole, dataIs⟩ := slice_rest found
    change data = firstData (first :: rest) at dataIs
    subst data
    cases fed
    refine .first (by simp [pciType, type]) whole ?_ copied
    simp only [messageLength, List.headD_cons]
    omega

private theorem consecutive_cases {link after : IsoTpLink N} {first : UInt8} {rest : List UInt8} {output}
    (type : first >>> 4 = 2) (fed : link.feedConsecutive first (first :: rest) = some (output, after)) :
    Feeds link (first :: rest) output after := by
  have consecutive : pciType (first :: rest) = some 2 := by simp [pciType, type]
  simp only [IsoTpLink.feedConsecutive, Option.bind_eq_bind, Option.pure_def] at fed
  split at fed
  · cases fed
    exact .rejected _
  next running =>
    have running : link.receiving = true := by simpa using running
    split at fed
    · cases fed
      exact .rejected _
    next next =>
      have next : lowNibble (first :: rest) = link.sn := by simpa [lowNibble] using next
      rw [Option.bind_eq_some_iff] at fed
      obtain ⟨data, found, fed⟩ := fed
      have dataIs : data = consecutiveData (first :: rest) := (slice_rest found).2
      subst data
      split at fed
      next long =>
        cases fed
        exact .overflowed consecutive running next long
      next bounded =>
        rw [Option.bind_eq_some_iff] at fed
        obtain ⟨buf, copied, fed⟩ := fed
        split at fed
        next full =>
          rw [Option.bind_eq_some_iff] at fed
          obtain ⟨message, read, fed⟩ := fed
          obtain ⟨_, _, rfl⟩ := slice_some read
          cases fed
          exact .completed consecutive running next (by omega) copied
        next short =>
          cases fed
          exact .continued consecutive running next (by omega) copied

/-- A frame that does not stop the program has one of the listed effects. -/
theorem feed_cases {link after : IsoTpLink N} {frame : List UInt8} {output}
    (fed : link.feed frame = some (output, after)) : Feeds link frame output after := by
  cases frame with
  | nil =>
    cases fed
    exact .rejected _
  | cons first rest =>
    simp only [IsoTpLink.feed] at fed
    split at fed
    next type => exact single_cases type fed
    · split at fed
      next type => exact first_cases type fed
      · split at fed
        next type => exact consecutive_cases type fed
        · cases fed
          exact .rejected _

/-- The bytes of the message in progress are at the front of the buffer. -/
structure Holding (link : IsoTpLink N) (data : List UInt8) : Prop where
  filled : link.filled = data.length
  bytes : link.buf.elements.take link.filled = data

theorem Holding.copy {link : IsoTpLink N} {buf : Buffer UInt8 N} {data more : List UInt8} (holding : Holding link data)
    (copied : link.buf.copy link.filled more = some buf) :
    buf.elements.take (link.filled + more.length) = data ++ more := by
  obtain ⟨fits, elements⟩ := Buffer.copy_elements copied
  rw [elements, take_overwrite (by rw [link.buf.sized]; omega), holding.bytes]

theorem feed_single (link : IsoTpLink N) (frame : List UInt8) (type : pciType frame = some 0)
    (declared : 0 < (lowNibble frame).toNat ∧ (lowNibble frame).toNat ≤ isotpSfMax ∧
      (lowNibble frame).toNat < frame.length)
    (fits : (singleData frame).length ≤ N) :
    ∃ after, link.feed frame = some (.ok (.complete (singleData frame)), after) := by
  cases frame with
  | nil => cases type
  | cons first rest =>
    have zero : first >>> 4 = 0 := Option.some.inj type
    have size : (singleData (first :: rest)).length = (first &&& 0x0F).toNat := by
      simp only [singleData, lowNibble, List.headD_cons, List.length_take, List.length_drop] at declared ⊢
      omega
    have room : 0 + (singleData (first :: rest)).length ≤ N := by omega
    obtain ⟨buf, copied, elements⟩ := Buffer.copy_eq link.buf room
    have data : slice (first :: rest) 1 (1 + (first &&& 0x0F).toNat) = some (singleData (first :: rest)) := by
      simp only [lowNibble, List.headD_cons] at declared
      rw [slice_eq (by omega) (by omega), Nat.add_sub_cancel_left]
      rfl
    have message : slice buf.elements 0 (first &&& 0x0F).toNat = some (singleData (first :: rest)) := by
      rw [slice_front (by rw [buf.sized]; omega), elements, ← size, take_overwrite_zero]
    have accepted : ¬ ((first &&& 0x0F).toNat = 0 ∨ (first &&& 0x0F).toNat > isotpSfMax ∨
        (first &&& 0x0F).toNat > (first :: rest).length - 1) := by
      simp only [lowNibble, List.headD_cons] at declared
      omega
    refine ⟨{ link with buf, receiving := false }, ?_⟩
    simp only [IsoTpLink.feed, if_pos zero, IsoTpLink.feedSingle, if_neg accepted, Option.bind_eq_bind,
      Option.pure_def, data, copied, message, Option.bind_some]

theorem feed_first (link : IsoTpLink N) (frame : List UInt8) (type : pciType frame = some 1)
    (whole : 2 ≤ frame.length) (declared : isotpFfMax < messageLength frame ∧ messageLength frame ≤ N)
    (fits : (firstData frame).length ≤ N) :
    ∃ after, link.feed frame = some (.ok .needFlowControl, after) ∧ Holding after (firstData frame) ∧
      after.total = messageLength frame ∧ after.sn = 1 ∧ after.receiving = true := by
  cases frame with
  | nil => cases type
  | cons first rest =>
    have one : first >>> 4 = 1 := Option.some.inj type
    have room : 0 + (firstData (first :: rest)).length ≤ N := by omega
    obtain ⟨buf, copied, elements⟩ := Buffer.copy_eq link.buf room
    have data : slice (first :: rest) 2 (first :: rest).length = some (firstData (first :: rest)) := slice_back whole
    have accepted : ¬ (IsoTpLink.declaredLength first (first :: rest) < isotpFfMax + 1 ∨
        IsoTpLink.declaredLength first (first :: rest) > N) := by
      simp only [messageLength, List.headD_cons] at declared
      omega
    have notSingle : ¬ first >>> 4 = 0 := by
      rw [one]
      decide
    refine ⟨⟨buf, messageLength (first :: rest), (firstData (first :: rest)).length, 1, true⟩, ?_, ⟨rfl, ?_⟩, rfl, rfl, rfl⟩
    · simp only [IsoTpLink.feed, if_neg notSingle, if_pos one, IsoTpLink.feedFirst, if_neg accepted,
        Option.bind_eq_bind, Option.pure_def, data, copied, Option.bind_some]
      rfl
    · rw [elements]
      exact take_overwrite_zero _ _

theorem feed_two (link : IsoTpLink N) {first : UInt8} (two : first >>> 4 = 2) (rest : List UInt8) :
    link.feed (first :: rest) = link.feedConsecutive first (first :: rest) := by
  have notSingle : ¬ first >>> 4 = 0 := by
    rw [two]
    decide
  have notFirst : ¬ first >>> 4 = 1 := by
    rw [two]
    decide
  simp only [IsoTpLink.feed, if_neg notSingle, if_neg notFirst, if_pos two]

/-- A Consecutive Frame with the awaited number: what it does depends only on
how far its data reaches. -/
theorem feed_consecutive {link : IsoTpLink N} (frame : List UInt8) {data : List UInt8} (type : pciType frame = some 2)
    (holding : Holding link data) (running : link.receiving = true) (bounded : link.total ≤ N)
    (next : lowNibble frame = link.sn) :
    if link.total < link.filled + (consecutiveData frame).length then
      ∃ after, link.feed frame = some (.error .overflow, after)
    else if link.filled + (consecutiveData frame).length = link.total then
      ∃ after, link.feed frame = some (.ok (.complete (data ++ consecutiveData frame)), after)
    else
      ∃ after, link.feed frame = some (.ok .incomplete, after) ∧ Holding after (data ++ consecutiveData frame) ∧
        after.total = link.total ∧ after.sn = (link.sn + 1) &&& 0x0F ∧ after.receiving = true := by
  cases frame with
  | nil => cases type
  | cons first rest =>
    have sequence : ¬ first &&& 0x0F ≠ link.sn := Classical.not_not.mpr next
    have bytes : slice (first :: rest) 1 (first :: rest).length = some (consecutiveData (first :: rest)) :=
      slice_back (by simp)
    simp only [feed_two link (Option.some.inj type), IsoTpLink.feedConsecutive, running, Bool.true_eq_false,
      if_false, if_neg sequence, Option.bind_eq_bind, Option.pure_def, bytes, Option.bind_some]
    split
    next => exact ⟨_, rfl⟩
    next short =>
      have room : link.filled + (consecutiveData (first :: rest)).length ≤ N := by omega
      obtain ⟨buf, copied, _⟩ := Buffer.copy_eq link.buf room
      have extended := holding.copy copied
      simp only [copied, Option.bind_some]
      split
      next full =>
        rw [if_pos (Nat.le_of_eq full.symm), slice_front (by rw [buf.sized]; exact bounded), Option.bind_some, ← full, extended]
        exact ⟨_, rfl⟩
      next partway =>
        rw [if_neg (by omega)]
        refine ⟨_, rfl, ⟨?_, extended⟩, rfl, rfl, rfl⟩
        rw [List.length_append, ← holding.filled]

/-- While a message is in progress, its bytes so far and its length fit the buffer. -/
def Bounded (link : IsoTpLink N) : Prop :=
  link.receiving = true → link.filled ≤ link.total ∧ link.total ≤ N

theorem bounded_new (N : Nat) : Bounded (IsoTpLink.new N) := by
  intro running
  cases running

theorem feed_bounded {link after : IsoTpLink N} {frame : List UInt8} {output} (short : frame.length ≤ 8)
    (bounded : Bounded link) (fed : link.feed frame = some (output, after)) : Bounded after := by
  cases feed_cases fed with
  | rejected => exact bounded
  | overflowed => exact bounded
  | single =>
    intro running
    cases running
  | first type whole declared copied =>
    intro _
    simp only [firstData, List.length_drop, isotpFfMax] at declared ⊢
    omega
  | continued type running next short copied => exact fun _ => ⟨Nat.le_of_lt short, (bounded running).2⟩
  | completed =>
    intro running
    cases running

/-- A lone First Frame byte whose length nibble alone passes the length check.
Reading its data from the third byte on is out of range. -/
def Truncated (N : Nat) (frame : List UInt8) : Prop :=
  ∃ first, frame = [first] ∧ first >>> 4 = 1 ∧
    0 < (first &&& 0x0F).toNat ∧ 256 * (first &&& 0x0F).toNat ≤ N

private theorem declaredLength_single (first : UInt8) :
    IsoTpLink.declaredLength first [first] = 256 * (first &&& 0x0F).toNat := by
  simp [IsoTpLink.declaredLength, Nat.shiftLeft_eq, Nat.mul_comm]

private theorem single_progress (link : IsoTpLink N) (first : UInt8) (frame : List UInt8) (wide : 7 ≤ N) :
    (link.feedSingle first frame).isSome := by
  simp only [IsoTpLink.feedSingle, Option.bind_eq_bind, Option.pure_def]
  split
  · rfl
  next declared =>
    simp only [isotpSfMax] at declared
    rw [slice_eq (by omega) (by omega), Option.bind_some]
    have fits : 0 + ((frame.drop 1).take (1 + (first &&& 0x0F).toNat - 1)).length ≤ N := by
      simp only [List.length_take]
      omega
    obtain ⟨buf, copied, _⟩ := Buffer.copy_eq link.buf fits
    rw [copied, Option.bind_some, slice_front (by rw [buf.sized]; omega)]
    rfl

private theorem first_progress (link : IsoTpLink N) (first : UInt8) (frame : List UInt8) (wide : 7 ≤ N)
    (short : frame.length ≤ 8) (whole : 2 ≤ frame.length) : (link.feedFirst first frame).isSome := by
  simp only [IsoTpLink.feedFirst, Option.bind_eq_bind, Option.pure_def]
  split
  · rfl
  · rw [slice_back whole, Option.bind_some]
    have fits : 0 + (frame.drop 2).length ≤ N := by
      simp only [List.length_drop]
      omega
    obtain ⟨buf, copied, _⟩ := Buffer.copy_eq link.buf fits
    rw [copied]
    rfl

private theorem consecutive_progress {link : IsoTpLink N} (first : UInt8) (frame : List UInt8)
    (bounded : Bounded link) (nonempty : 1 ≤ frame.length) : (link.feedConsecutive first frame).isSome := by
  simp only [IsoTpLink.feedConsecutive, Option.bind_eq_bind, Option.pure_def]
  split
  · rfl
  next running =>
    have bounds := bounded (by simpa using running)
    split
    · rfl
    · rw [slice_back nonempty, Option.bind_some]
      split
      · rfl
      next room =>
        have fits : link.filled + (frame.drop 1).length ≤ N := by omega
        obtain ⟨buf, copied, _⟩ := Buffer.copy_eq link.buf fits
        rw [copied, Option.bind_some]
        split
        · rw [slice_front (by rw [buf.sized]; exact bounds.2)]
          rfl
        · rfl

/-- Apart from the truncated First Frame, no payload of at most eight bytes
reaches outside an array. -/
theorem feed_progress {link : IsoTpLink N} {frame : List UInt8} (wide : 7 ≤ N) (short : frame.length ≤ 8)
    (bounded : Bounded link) (whole : ¬ Truncated N frame) : (link.feed frame).isSome := by
  cases frame with
  | nil => rfl
  | cons first rest =>
    simp only [IsoTpLink.feed]
    split
    · exact single_progress link first _ wide
    · split
      next type =>
        by_cases alone : rest = []
        · subst rest
          -- The length check rejects the lone byte before its data is read.
          have refused : IsoTpLink.declaredLength first [first] < isotpFfMax + 1 ∨
              IsoTpLink.declaredLength first [first] > N := by
            rw [declaredLength_single, isotpFfMax]
            by_cases zero : (first &&& 0x0F).toNat = 0
            · omega
            · exact .inr (Nat.lt_of_not_le fun fits => whole ⟨first, rfl, type, Nat.pos_of_ne_zero zero, fits⟩)
          simp only [IsoTpLink.feedFirst, if_pos refused]
          rfl
        · apply first_progress link first _ wide short
          have := List.length_pos_iff.mpr alone
          simp only [List.length_cons]
          omega
      · split
        · exact consecutive_progress first _ bounded (by simp)
        · rfl

theorem feed_truncated (link : IsoTpLink N) {frame : List UInt8} (truncated : Truncated N frame) :
    link.feed frame = none := by
  obtain ⟨first, rfl, type, positive, fits⟩ := truncated
  have accepted : ¬ (IsoTpLink.declaredLength first [first] < isotpFfMax + 1 ∨
      IsoTpLink.declaredLength first [first] > N) := by
    rw [declaredLength_single, isotpFfMax]
    omega
  have reversed : slice [first] 2 [first].length = none := slice_reversed Nat.one_lt_two
  have notSingle : ¬ first >>> 4 = 0 := by
    rw [type]
    decide
  simp only [IsoTpLink.feed, if_neg notSingle, if_pos type, IsoTpLink.feedFirst, if_neg accepted, reversed,
    Option.bind_eq_bind, Option.bind_none]

/-- A link of at least seven bytes survives a stream of payloads, each of at
most eight bytes, exactly when none of them is a truncated First Frame. -/
theorem feed_safe_iff (N : Nat) (wide : 7 ≤ N) (frames : List (List UInt8))
    (short : ∀ frame ∈ frames, frame.length ≤ 8) :
    (IsoTpLink.machine N).Safe Bounded (IsoTpLink.new N) frames ↔ ∀ frame ∈ frames, ¬ Truncated N frame := by
  apply Machine.safe_iff (fun _ bounded => bounded)
  · intro frame member whole link bounded
    obtain ⟨⟨output, after⟩, fed⟩ := Option.isSome_iff_exists.mp (feed_progress wide (short frame member) bounded whole)
    exact ⟨output, after, fed, feed_bounded (short frame member) bounded fed⟩
  · intro frame _ truncated link _ output next fed
    cases (feed_truncated link (Classical.not_not.mp truncated)).symm.trans fed
  · exact bounded_new N

theorem feed_safe_narrow_link :
    (IsoTpLink.machine 64).Safe Bounded (IsoTpLink.new 64)
      [[0x10, 0x08, 1, 2, 3, 4, 5, 6], [0x21, 7, 8], [0x11], []] := by
  apply (feed_safe_iff 64 (by decide) _ (by decide)).mpr
  intro frame _ truncated
  obtain ⟨first, _, _, positive, fits⟩ := truncated
  omega

/-- The one-byte payload `0x11` declares 256 bytes, which a 256-byte link accepts. -/
theorem feed_truncated_unsafe :
    7 ≤ 256 ∧ (∀ frame ∈ [[0x11]], (frame : List UInt8).length ≤ 8) ∧
      ¬ (IsoTpLink.machine 256).Safe Bounded (IsoTpLink.new 256) [[0x11]] := by
  refine ⟨by decide, by decide, ?_⟩
  intro safe
  obtain ⟨_, output, next, fed, _⟩ := safe
  have stopped : (IsoTpLink.new 256).feed [0x11] = none :=
    feed_truncated _ ⟨0x11, rfl, by decide, by decide, by decide⟩
  exact absurd (stopped.symm.trans fed) (by simp)

end TptChassis.Proofs.IsoTpFeed
