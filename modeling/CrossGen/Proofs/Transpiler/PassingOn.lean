import CrossGen.Proofs.Transpiler.Past

/-!
# What a pump passes on

A pump passes on what it reads, up to the first reading that has to be the last one.  As long as its
receiver stays, only the message in its hands is still to be sent; once the receiver has gone away,
the next message is the end of the pump.  This holds for answers that go on for ever as well as for
those that come to an end, and the pump has at every time done what `pump` does with its readings.
-/

namespace CrossGen.Relay

namespace Setting

/-! ## How far the pump comes -/

theorem readings_succ
    (setting : Setting) {n made : ℕ} {reading : Reading}
    (hstage : (setting.pumping n).stage = .reading)
    (hreadings : (setting.pumping n).readings = setting.answers.take made)
    (hanswer : setting.answers.get? made = some reading) :
    (setting.pumping (n + 1)).stage = .after reading ∧
      (setting.pumping (n + 1)).readings = setting.answers.take (made + 1) := by
  have hlength : (setting.pumping n).readings.length = made := by
    rw [hreadings, length_take_of_get? hanswer]
  obtain ⟨hnext, hmade⟩ := (setting.step n).of_reading hstage (hlength.symm ▸ hanswer)
  refine ⟨hnext, ?_⟩
  rw [hmade, hreadings, take_succ, hanswer, Option.toList_some]

/-- The message for a reading is sent in the step behind it, or refused if the receiver is gone. -/
theorem stage_succ
    (setting : Setting) {n made : ℕ} {reading : Reading}
    (hstage : (setting.pumping n).stage = .after reading)
    (hreadings : (setting.pumping n).readings = setting.answers.take made)
    (hmessage : (reading.message? setting.stream).isSome = true) :
    (setting.pumping (n + 1)).stage = (Pump.after reading).released ∧
        (setting.pumping (n + 1)).readings = setting.answers.take made ∨
      (setting.pumping (n + 1)).stage = .ended ∧ setting.stays < (n + 1 : ℕ) := by
  obtain ⟨message, hheld⟩ := Option.isSome_iff_exists.mp hmessage
  rw [← Pump.message?_after, ← hstage] at hheld
  obtain ⟨hsame, ⟨-, hreleased⟩ | ⟨hheard, hended, -⟩⟩ := (setting.step n).of_held hheld
  · exact .inl ⟨hstage ▸ hreleased, hsame.trans hreadings⟩
  · exact .inr ⟨hended, (not_lt.mp hheard).trans_lt (Nat.cast_lt.mpr n.lt_succ_self)⟩

/-- Two steps are enough for an answer that is not a last one, unless the pump is refused. -/
theorem exists_reading
    (setting : Setting) {made : ℕ}
    (hopen : ∀ reading ∈ setting.answers.take made, reading.isLast = false) :
    ∃ n, n ≤ 2 * made ∧
      ((setting.pumping n).stage = .reading ∧
          (setting.pumping n).readings = setting.answers.take made ∨
        (setting.pumping n).stage = .ended ∧ setting.stays < n) := by
  induction made with
  | zero => exact ⟨0, Nat.le_refl 0, .inl ⟨rfl, rfl⟩⟩
  | succ made ih =>
      rw [take_succ] at hopen
      obtain ⟨n, hn, hcome⟩ := ih fun reading hmem => hopen reading (List.mem_append_left _ hmem)
      rcases hcome with ⟨hstage, hreadings⟩ | hended
      · cases hanswer : setting.answers.get? made with
        | none =>
            refine ⟨n, by omega, .inl ⟨hstage, ?_⟩⟩
            rw [hreadings, take_succ, hanswer, Option.toList_none, List.append_nil]
        | some reading =>
            have hlast : reading.isLast = false := hopen reading (by simp [hanswer])
            obtain ⟨hnext, hmade⟩ := setting.readings_succ hstage hreadings hanswer
            cases reading with
            | piece bytes => exact ⟨n + 2, by omega, setting.stage_succ hnext hmade rfl⟩
            | interrupted => exact ⟨n + 1, by omega, .inl ⟨hnext, hmade⟩⟩
            | failed cause => cases hlast
            | closed => cases hlast
      · exact ⟨n, by omega, .inr hended⟩

/-- The pump ends with the first last answer, unless it is refused before. -/
theorem exists_ended
    (setting : Setting) {made : ℕ} {last : Reading}
    (hopen : ∀ reading ∈ setting.answers.take made, reading.isLast = false)
    (hanswer : setting.answers.get? made = some last) (hlast : last.isLast = true) :
    ∃ n, n ≤ 2 * made + 2 ∧ (setting.pumping n).stage = .ended ∧
      ((setting.pumping n).readings = setting.answers.take (made + 1) ∨ setting.stays < n) := by
  obtain ⟨n, hn, ⟨hstage, hreadings⟩ | ⟨hended, hgone⟩⟩ := setting.exists_reading hopen
  · obtain ⟨hnext, hmade⟩ := setting.readings_succ hstage hreadings hanswer
    cases last with
    | piece bytes => cases hlast
    | interrupted => cases hlast
    | failed cause =>
        refine ⟨n + 2, by omega, ?_⟩
        rcases setting.stage_succ hnext hmade rfl with ⟨hended, hstill⟩ | ⟨hended, hgone⟩
        · exact ⟨hended, .inl hstill⟩
        · exact ⟨hended, .inr hgone⟩
    | closed => exact ⟨n + 1, by omega, hnext, .inl hmade⟩
  · exact ⟨n, by omega, hended, .inr hgone⟩

end Setting

/-! ## The pump and its setting -/

/-- What a pump does in a setting. -/
structure PassesOn (setting : Setting) : Prop where
  /-- If the receiver takes all messages up to the first last reading, `pump` sends these and leaves
  the rest. -/
  taken : ∀ before last rest room, (∀ reading ∈ before, reading.isLast = false) →
    last.isLast = true →
    ((before ++ [last]).filterMap (Reading.message? setting.stream)).length ≤ room →
    pump setting.stream room (before ++ last :: rest) =
      ⟨(before ++ [last]).filterMap (Reading.message? setting.stream), rest⟩
  /-- If there is no last reading, `pump` sends all messages and leaves nothing. -/
  awaited : ∀ readings room, (∀ reading ∈ readings, reading.isLast = false) →
    (readings.filterMap (Reading.message? setting.stream)).length ≤ room →
    pump setting.stream room readings =
      ⟨readings.filterMap (Reading.message? setting.stream), []⟩
  /-- If the receiver does not take the message for a reading, `pump` has sent those before it and
  leaves the rest. -/
  untaken : ∀ before reading message rest, (∀ reading ∈ before, reading.isLast = false) →
    reading.message? setting.stream = some message →
    pump setting.stream (before.filterMap (Reading.message? setting.stream)).length
        (before ++ reading :: rest) =
      ⟨before.filterMap (Reading.message? setting.stream), rest⟩
  /-- At every time the pump at work has done what `pump` does with its readings, and when it has
  ended, `pump` leaves whatever might follow. -/
  pumped : ∀ n,
    pump setting.stream (setting.pumping n).sent.length (setting.pumping n).readings =
        ⟨(setting.pumping n).sent, []⟩ ∧
      ((setting.pumping n).stage = .ended → ∀ more,
        pump setting.stream (setting.pumping n).sent.length
          ((setting.pumping n).readings ++ more) = ⟨(setting.pumping n).sent, more⟩)
  /-- It reads the answers one after the other, and nothing behind a last one. -/
  reads : ∀ n,
    setting.answers.take (setting.pumping n).readings.length = (setting.pumping n).readings ∧
      ∀ reading ∈ (setting.pumping n).readings.dropLast, reading.isLast = false
  /-- It sends nothing but the messages for its readings, in order. -/
  sends : ∀ n, (setting.pumping n).sent <+:
    (setting.pumping n).readings.filterMap (Reading.message? setting.stream)
  /-- While the receiver stays, only the message in its hands is not sent yet. -/
  keeps : ∀ n : ℕ, n ≤ setting.stays →
    (setting.pumping n).readings.filterMap (Reading.message? setting.stream) =
      (setting.pumping n).sent ++ (setting.pumping n).held?.toList
  /-- While the receiver stays, it sends the messages for all answers before the last one. -/
  reaches : ∀ made, (∀ reading ∈ setting.answers.take made, reading.isLast = false) →
    ∃ n : ℕ, n ≤ 2 * made ∧ (n ≤ setting.stays → (setting.pumping n).sent =
      (setting.answers.take made).filterMap (Reading.message? setting.stream))
  /-- It ends with the first last answer, and if the receiver has stayed, it has sent exactly the
  messages for the answers up to there. -/
  ends : ∀ made last, (∀ reading ∈ setting.answers.take made, reading.isLast = false) →
    setting.answers.get? made = some last → last.isLast = true →
    ∃ n : ℕ, n ≤ 2 * made + 2 ∧ (setting.pumping n).stage = .ended ∧
      (n ≤ setting.stays →
        (setting.pumping n).readings = setting.answers.take made ++ [last] ∧
          (setting.pumping n).sent =
            (setting.answers.take made ++ [last]).filterMap (Reading.message? setting.stream))
  /-- What is done stays done, and behind the end of the stream, a failure that is passed on and a
  message that nobody receives, nothing is done. -/
  stops : ∀ n, (∀ m, n ≤ m → (setting.pumping n).past <+: (setting.pumping m).past) ∧
    ∀ before event after, (setting.pumping n).past = before ++ event :: after →
      event.isFinal = true → after = []
  /-- Once the receiver has gone away nothing more is sent, and the next message to be sent is the
  last thing that the pump deals with. -/
  gone : ∀ n m : ℕ, setting.stays ≤ n → n ≤ m →
    (setting.pumping m).sent = (setting.pumping n).sent ∧
      ∀ message, (setting.pumping n).held? = some message → n < m →
        (setting.pumping m).past =
          (setting.pumping n).past ++ [.refuse setting.stream message]
  /-- If some answer is a last one, the pump comes to its end. -/
  terminates : (∃ reading ∈ setting.answers, reading.isLast = true) →
    ∃ n, (setting.pumping n).stage = .ended ∧
      ∀ m, n ≤ m → setting.pumping m = setting.pumping n

/-- Whatever is read and whenever the receiver goes away, a pump passes on what it has to. -/
theorem pumping_passes_on (setting : Setting) : PassesOn setting where
  taken := fun _ _ rest _ hopen hlast hroom => pump_last setting.stream hopen hlast hroom rest
  awaited := fun _ _ hopen hroom => pump_awaited setting.stream hopen hroom
  untaken := fun _ _ _ rest hopen hmessage => pump_refused setting.stream hopen hmessage rest
  pumped := fun n => ⟨(setting.follows n).1, setting.pump_append_of_ended⟩
  reads := fun n => ⟨setting.take_length_readings n, setting.isLast_eq_false_of_mem_dropLast n⟩
  sends := setting.sent_prefix
  keeps := fun _ => setting.sent_append_held?
  reaches := by
    intro made hopen
    obtain ⟨n, hn, ⟨hstage, hreadings⟩ | ⟨-, hgone⟩⟩ := setting.exists_reading hopen
    · refine ⟨n, hn, fun hstays => ?_⟩
      have hsent := setting.sent_append_held? hstays
      rw [Pumping.held?_of_reading hstage, Option.toList_none, List.append_nil] at hsent
      rw [← hsent, hreadings]
    · exact ⟨n, hn, fun hstays => absurd hstays (not_le.mpr hgone)⟩
  ends := by
    intro made last hopen hanswer hlast
    obtain ⟨n, hn, hended, hreadings | hgone⟩ := setting.exists_ended hopen hanswer hlast
    · refine ⟨n, hn, hended, fun hstays => ?_⟩
      have hsent := setting.sent_append_held? hstays
      rw [take_succ, hanswer, Option.toList_some] at hreadings
      rw [Pumping.held?_of_ended hended, Option.toList_none, List.append_nil] at hsent
      exact ⟨hreadings, by rw [← hsent, hreadings]⟩
    · exact ⟨n, hn, hended, fun hstays => absurd hstays (not_le.mpr hgone)⟩
  stops := fun n => ⟨fun _ => setting.past_prefix,
    fun _ _ _ hpast hfinal => (setting.eq_nil_of_isFinal hpast hfinal).1⟩
  gone := fun _ _ hgone h => ⟨setting.sent_of_stays_le hgone h,
    fun _ hheld hlt => setting.past_of_stays_le hgone hheld hlt⟩
  terminates := by
    intro hlast
    obtain ⟨made, last, hopen, hanswer, hisLast⟩ := exists_first_last hlast
    obtain ⟨n, -, hended, -⟩ := setting.exists_ended hopen hanswer hisLast
    exact ⟨n, hended, fun m h => setting.pumping_of_ended hended h⟩

/-! ### A stream that fails -/

/-- Two pieces with an interrupted attempt between them, a failure, and a piece behind it. -/
def Setting.failing : Setting where
  stream := .err
  answers := .ofList
    [.piece ⟨#[1]⟩, .interrupted, .piece ⟨#[2]⟩, .failed (.os 5), .piece ⟨#[3]⟩]
  stays := ⊤
  fits := by
    have hone (byte : UInt8) : 1 ≤ (⟨#[byte]⟩ : ByteArray).size ∧
        (⟨#[byte]⟩ : ByteArray).size ≤ pieceSize :=
      ⟨Nat.le_refl 1, (by decide : 1 ≤ pieceSize)⟩
    intro bytes hmem
    simp only [Stream'.Seq.ofList_cons, Stream'.Seq.ofList_nil, Stream'.Seq.mem_cons_iff,
      Stream'.Seq.notMem_nil, or_false, Reading.piece.injEq, reduceCtorEq, false_or] at hmem
    rcases hmem with rfl | rfl | rfl
    · exact hone 1
    · exact hone 2
    · exact hone 3

/-- The pump sends the pieces before the failure, the failure, and nothing more. -/
theorem pumping_failing_passes_on :
    ∃ n, n ≤ 8 ∧ (Setting.failing.pumping n).stage = .ended ∧
      (Setting.failing.pumping n).sent =
        [.piece .err ⟨#[1]⟩, .piece .err ⟨#[2]⟩, .failed (.os 5)] := by
  have hanswers : Setting.failing.answers.take 3 =
      [.piece ⟨#[1]⟩, .interrupted, .piece ⟨#[2]⟩] := rfl
  have hopen : ∀ reading ∈ Setting.failing.answers.take 3, reading.isLast = false := by
    rw [hanswers]
    decide
  obtain ⟨n, hn, hended, hsent⟩ :=
    (pumping_passes_on Setting.failing).ends 3 (.failed (.os 5)) hopen rfl rfl
  refine ⟨n, hn, hended, ?_⟩
  rw [(hsent le_top).2, hanswers]
  rfl

end CrossGen.Relay
