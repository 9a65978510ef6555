import ConversionSynthesis.Delivery.Stream
import ConversionSynthesis.Proofs.Sequence

/-! # Streams that run full

A stream with a limit holds as much of the units offered to it as a stream without one would start
with. Nothing else is lost: a unit is refused only if it does not fit as a whole behind those before
it, or for its identifier, and then nothing of it is written.
-/

namespace ConversionSynthesis

theorem Text.bytes_append (front back : String) :
    Text.bytes (front ++ back) = Text.bytes front ++ Text.bytes back := by
  simp [Text.bytes_eq]

namespace GeneratedUnit

/-- What a unit is in a stream: its banner, its text, and a newline if the text ends without one. -/
def block (unit : GeneratedUnit) : String :=
  unit.banner ++ unit.text ++ if unit.text.toList.getLast? = some '\n' then "" else "\n"

theorem bytes_block (unit : GeneratedUnit) :
    Text.bytes unit.block = unit.listing.flatMap Text.bytes := by
  rw [block, listing, lineEnd, Text.bytes_append, Text.bytes_append]
  split <;> simp [Text.bytes_eq]

theorem banner_ne_empty (unit : GeneratedUnit) : Text.bytes unit.banner ≠ [] := by
  have wide : 0 < (Text.bytes unit.banner).length := by
    rw [Text.length_bytes, banner, String.utf8ByteSize_append, String.utf8ByteSize_append]
    have lead : ("// ---- " : String).utf8ByteSize = 8 := by decide +kernel
    omega
  exact List.length_pos_iff.mp wide

end GeneratedUnit

/-- What a stream without a limit holds of units: the blocks of those with valid identifiers. -/
def streamOf (units : List GeneratedUnit) : List UInt8 :=
  (units.filter fun unit => isUnitIdentifier unit.identifier).flatMap fun unit =>
    Text.bytes unit.block

namespace ByteStream

variable {limit : Nat} {ideal : List UInt8} {stream : ByteStream} {unit : GeneratedUnit}

/-- The stream has the limit, and holds what comes first of the ideal bytes, up to the limit. -/
structure Holds (limit : Nat) (ideal : List UInt8) (stream : ByteStream) : Prop where
  capacity : stream.capacity = some limit
  stored : stream.toList = ideal.take limit

/-! ## Writing -/

theorem Holds.write (holds : Holds limit ideal stream) (text : String) :
    Holds limit (ideal ++ Text.bytes text) (write text stream).2 where
  capacity := (capacity_write stream text).trans holds.capacity
  stored := by
    rw [toList_write_of_limited stream text limit holds.capacity, holds.stored, List.take_append,
      List.length_take]
    congr 2
    omega

/-- A text is written as a whole if it fits behind what there is, or if it is empty. -/
theorem Holds.write_iff (holds : Holds limit ideal stream) (text : String) :
    (ByteStream.write text stream).1 = true ↔
      Text.bytes text = [] ∨ (ideal ++ Text.bytes text).length ≤ limit := by
  have stored : stream.stored.size = min limit ideal.length := by
    rw [← List.length_take, ← holds.stored, toList, Array.length_toList]
    rfl
  have answer : (ByteStream.write text stream).1 = true ↔
      min (limit - stream.stored.size) text.utf8ByteSize = text.utf8ByteSize := by
    simp [ByteStream.write, fitting, holds.capacity]
  rw [answer, stored, ← List.length_eq_zero_iff, List.length_append, Text.length_bytes]
  omega

/-- A stream that is full keeps holding the same, whatever is to come. -/
theorem Holds.append (holds : Holds limit ideal stream) (full : limit ≤ ideal.length)
    (more : List UInt8) : Holds limit (ideal ++ more) stream where
  capacity := holds.capacity
  stored := by rw [holds.stored, List.take_append_of_le_length full]

theorem writeAll_cons (text : String) (rest : List String) (stream : ByteStream) :
    writeAll ByteStream.write (text :: rest) stream =
      if (ByteStream.write text stream).1 = true then
        writeAll ByteStream.write rest (ByteStream.write text stream).2
      else (false, (ByteStream.write text stream).2) := by
  have ran : ByteStream.write text stream =
      ((ByteStream.write text stream).1, (ByteStream.write text stream).2) := rfl
  rw [writeAll, bind_apply ran]
  split <;> rfl

theorem Holds.writeAll (holds : Holds limit ideal stream) (texts : List String) :
    Holds limit (ideal ++ texts.flatMap Text.bytes)
        (writeAll ByteStream.write texts stream).2 ∧
      (ideal.length ≤ limit → ((writeAll ByteStream.write texts stream).1 = true ↔
        (ideal ++ texts.flatMap Text.bytes).length ≤ limit)) := by
  induction texts generalizing ideal stream with
  | nil =>
      rw [List.flatMap_nil, List.append_nil]
      exact ⟨holds, fun fits => iff_of_true rfl fits⟩
  | cons text rest ih =>
      have first := holds.write text
      have answer := holds.write_iff text
      rw [List.flatMap_cons, ← List.append_assoc, writeAll_cons]
      split
      · next written =>
          obtain ⟨kept, whole⟩ := ih first
          refine ⟨kept, fun fits => whole ?_⟩
          rcases answer.mp written with empty | fitsToo
          · rwa [empty, List.append_nil]
          · exact fitsToo
      · next cut =>
          rw [answer, not_or, Nat.not_le] at cut
          refine ⟨first.append (Nat.le_of_lt cut.2) _, fun _ => iff_of_false nofun ?_⟩
          rw [List.length_append]
          omega

/-! ## Units -/

theorem sink_of_invalid (invalid : isUnitIdentifier unit.identifier = false)
    (stream : ByteStream) :
    sink unit stream = (.error (.invalidIdentifier unit.identifier), stream) := by
  simp only [sink, listingSink, invalid]
  rfl

theorem sink_of_valid (valid : isUnitIdentifier unit.identifier = true) (stream : ByteStream) :
    sink unit stream =
      (if (writeAll ByteStream.write unit.listing stream).1 = true then .ok ()
        else .error (.unwritable unit.identifier),
      (writeAll ByteStream.write unit.listing stream).2) := by
  have ran : writeAll ByteStream.write unit.listing stream =
      ((writeAll ByteStream.write unit.listing stream).1,
        (writeAll ByteStream.write unit.listing stream).2) := rfl
  simp only [sink, listingSink, valid, Bool.not_true, Bool.false_eq_true, if_false]
  rw [bind_apply ran]
  split <;> rfl

/-- A unit is written as a whole if its block fits. A stream that overflowed refuses it, for no
banner is empty. -/
theorem Holds.sink_of_valid (holds : Holds limit ideal stream)
    (valid : isUnitIdentifier unit.identifier = true) :
    Holds limit (ideal ++ Text.bytes unit.block) (sink unit stream).2 ∧
      (sink unit stream).1 =
        if (ideal ++ Text.bytes unit.block).length ≤ limit then .ok ()
        else .error (.unwritable unit.identifier) := by
  obtain ⟨kept, whole⟩ := holds.writeAll unit.listing
  rw [← unit.bytes_block] at kept whole
  rw [ByteStream.sink_of_valid valid]
  refine ⟨kept, if_congr ?_ rfl rfl⟩
  by_cases fits : ideal.length ≤ limit
  · exact whole fits
  · have banner : ¬ (ByteStream.write unit.banner stream).1 = true := by
      rw [holds.write_iff, List.length_append]
      have := unit.banner_ne_empty
      simp only [this, false_or]
      omega
    rw [GeneratedUnit.listing, writeAll_cons, if_neg banner, List.length_append]
    refine iff_of_false nofun ?_
    omega

theorem streamOf_of_valid (valid : isUnitIdentifier unit.identifier = true) :
    streamOf [unit] = Text.bytes unit.block := by
  simp [streamOf, valid]

theorem streamOf_of_invalid (invalid : isUnitIdentifier unit.identifier = false) :
    streamOf [unit] = [] := by
  simp [streamOf, invalid]

theorem streamOf_append (front back : List GeneratedUnit) :
    streamOf (front ++ back) = streamOf front ++ streamOf back := by
  rw [streamOf, List.filter_append, List.flatMap_append]
  rfl

theorem streamOf_cons (unit : GeneratedUnit) (rest : List GeneratedUnit) :
    streamOf (unit :: rest) = streamOf [unit] ++ streamOf rest :=
  streamOf_append [unit] rest

/-- The answer to a unit behind the bytes of those before it, where the stream has a limit. -/
def answerWithin (limit : Nat) (before : List UInt8) (unit : GeneratedUnit) :
    Except SinkError Unit :=
  if !isUnitIdentifier unit.identifier then .error (.invalidIdentifier unit.identifier)
  else if (before ++ streamOf [unit]).length ≤ limit then .ok ()
  else .error (.unwritable unit.identifier)

/-- One call: the stream goes on to hold what comes first of the ideal bytes. -/
theorem Holds.step (holds : Holds limit ideal stream) (unit : GeneratedUnit) :
    Holds limit (ideal ++ streamOf [unit]) (sink unit stream).2 ∧
      (sink unit stream).1 = answerWithin limit ideal unit := by
  cases valid : isUnitIdentifier unit.identifier with
  | false =>
      rw [sink_of_invalid valid, streamOf_of_invalid valid, List.append_nil]
      exact ⟨holds, by simp [answerWithin, valid]⟩
  | true =>
      obtain ⟨kept, answer⟩ := holds.sink_of_valid valid
      rw [← streamOf_of_valid valid] at kept answer
      exact ⟨kept, by simp [answerWithin, valid, answer]⟩

/-- Any number of calls, whatever was answered to those before. -/
theorem Holds.run (holds : Holds limit ideal stream) (units : List GeneratedUnit) :
    Holds limit (ideal ++ streamOf units) (units.mapM sink stream).2 ∧
      ∀ i unit, units[i]? = some unit → (units.mapM sink stream).1[i]? =
        some (answerWithin limit (ideal ++ streamOf (units.take i)) unit) := by
  induction units generalizing ideal stream with
  | nil =>
      refine ⟨?_, nofun⟩
      rw [streamOf, List.filter_nil, List.flatMap_nil, List.append_nil]
      exact holds
  | cons first rest ih =>
      obtain ⟨next, answer⟩ := holds.step first
      obtain ⟨final, answers⟩ := ih next
      rw [mapM_cons_apply, streamOf_cons, ← List.append_assoc]
      refine ⟨final, fun i unit found => ?_⟩
      cases i with
      | zero =>
          cases found
          rw [List.getElem?_cons_zero, answer, List.take_zero, streamOf, List.filter_nil,
            List.flatMap_nil, List.append_nil]
      | succ i =>
          rw [List.getElem?_cons_succ, answers i unit found, List.take_succ_cons,
            streamOf_cons first (rest.take i), List.append_assoc]

/-- A stream with a limit that is offered units one by one, whatever it answers, holds exactly what
comes first of the blocks of those with valid identifiers, up to its limit. It takes in a unit with
a valid identifier just if the blocks up to its own fit into the limit, and refuses any other for
its identifier, without writing anything. -/
theorem stream_truncates (limit : Nat) (units : List GeneratedUnit) :
    let run := units.mapM sink { capacity := some limit }
    run.2.toList = (streamOf units).take limit ∧ run.1.length = units.length ∧
      ∀ i unit, units[i]? = some unit → ∃ answer, run.1[i]? = some answer ∧
        (isUnitIdentifier unit.identifier = true →
          (answer = .ok () ↔ (streamOf (units.take (i + 1))).length ≤ limit) ∧
            (answer ≠ .ok () → answer = .error (.unwritable unit.identifier))) ∧
        (isUnitIdentifier unit.identifier = false →
          answer = .error (.invalidIdentifier unit.identifier) ∧
            ∀ stream, (sink unit stream).2 = stream) := by
  intro run
  have empty : Holds limit [] { capacity := some limit } := ⟨rfl, by simp [toList]⟩
  obtain ⟨final, answers⟩ := empty.run units
  refine ⟨final.stored, ?_, fun i unit found => ⟨_, answers i unit found, ?_, ?_⟩⟩
  · exact length_mapM sink units _
  · intro valid
    have upTo : streamOf (units.take (i + 1)) = streamOf (units.take i) ++ streamOf [unit] := by
      rw [List.take_add_one, found, streamOf_append]
      rfl
    rw [upTo, answerWithin, valid, List.nil_append]
    split_ifs <;> simp_all
  · intro invalid
    refine ⟨by simp [answerWithin, invalid], fun stream => ?_⟩
    rw [sink_of_invalid invalid]

/-- Twenty bytes hold a unit of eighteen and the start of the banner of another one; what has no
valid identifier is passed over. -/
theorem stream_truncates_banner :
    let units : List GeneratedUnit := [⟨"A.g.cs", "ab"⟩, ⟨"..", "x"⟩, ⟨"B.g.cs", "c\n"⟩]
    let run := units.mapM sink { capacity := some 20 }
    run.2.toList = Text.bytes "// ---- A.g.cs\nab\n//" ∧
      run.1[0]? = some (.ok ()) ∧ run.1[1]? = some (.error (.invalidIdentifier "..")) ∧
      run.1[2]? = some (.error (.unwritable "B.g.cs")) := by
  intro units run
  obtain ⟨stored, -, answers⟩ := stream_truncates 20 units
  obtain ⟨first, isFirst, taken, -⟩ := answers 0 ⟨"A.g.cs", "ab"⟩ rfl
  obtain ⟨second, isSecond, -, refused⟩ := answers 1 ⟨"..", "x"⟩ rfl
  obtain ⟨third, isThird, cut, -⟩ := answers 2 ⟨"B.g.cs", "c\n"⟩ rfl
  have fits : (streamOf (units.take 1)).length ≤ 20 := by decide +kernel
  have overflows : ¬ (streamOf (units.take 3)).length ≤ 20 := by decide +kernel
  rw [(taken (by decide +kernel)).1.mpr fits] at isFirst
  rw [(refused (by decide +kernel)).1] at isSecond
  obtain ⟨whole, otherwise⟩ := cut (by decide +kernel)
  rw [otherwise fun isWhole => overflows (whole.mp isWhole)] at isThird
  have front : (streamOf units).take 20 = Text.bytes "// ---- A.g.cs\nab\n//" := by
    decide +kernel
  exact ⟨stored.trans front, isFirst, isSecond, isThird⟩

end ByteStream

end ConversionSynthesis
