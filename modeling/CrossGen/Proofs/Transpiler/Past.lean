import CrossGen.Proofs.Transpiler.Alarm
import CrossGen.Proofs.Transpiler.Pumping

/-!
# The past of a pump

What holds of a pump at every time: which answers it has read, which messages it has sent, that it
has done what `pump` does with its readings, and that behind some events nothing is done any more.
-/

namespace CrossGen.Relay

/-! ## Answers and events -/

theorem take_succ (answers : Stream'.Seq Reading) (made : ℕ) :
    answers.take (made + 1) = answers.take made ++ (answers.get? made).toList := by
  induction made generalizing answers with
  | zero =>
      cases answers with
      | nil => rfl
      | cons answer rest => rfl
  | succ made ih =>
      cases answers with
      | nil => rfl
      | cons answer rest =>
          rw [Stream'.Seq.take_succ_cons, ih, Stream'.Seq.take_succ_cons,
            Stream'.Seq.get?_cons_succ, List.cons_append]

theorem length_take_of_get?
    {answers : Stream'.Seq Reading} {made : ℕ} {reading : Reading}
    (h : answers.get? made = some reading) : (answers.take made).length = made := by
  have hle : (answers.take made).length ≤ made := Stream'.Seq.length_take_le
  have hmem : (answers.take (made + 1))[made]? = some reading := by
    rw [Stream'.Seq.getElem?_take, if_pos made.lt_succ_self, h]
  obtain ⟨hlt, -⟩ := List.getElem?_eq_some_iff.mp hmem
  rw [take_succ, h, List.length_append, Option.toList_some, List.length_singleton] at hlt
  omega

/-- Among answers with a last one there is a first such answer. -/
theorem exists_first_last
    {answers : Stream'.Seq Reading} (h : ∃ reading ∈ answers, reading.isLast = true) :
    ∃ made last, (∀ reading ∈ answers.take made, reading.isLast = false) ∧
      answers.get? made = some last ∧ last.isLast = true := by
  classical
  obtain ⟨reading, hmem, hreading⟩ := h
  obtain ⟨index, hindex⟩ := Stream'.Seq.mem_iff_exists_get?.mp hmem
  have hexists : ∃ made last, answers.get? made = some last ∧ last.isLast = true :=
    ⟨index, reading, hindex.symm, hreading⟩
  obtain ⟨last, hanswer, hlast⟩ := Nat.find_spec hexists
  refine ⟨Nat.find hexists, last, ?_, hanswer, hlast⟩
  intro other hother
  obtain ⟨earlier, hearlier⟩ := List.mem_iff_getElem?.mp hother
  rw [Stream'.Seq.getElem?_take] at hearlier
  by_cases hlt : earlier < Nat.find hexists
  · rw [if_pos hlt] at hearlier
    by_contra hopen
    exact Nat.find_min hexists hlt ⟨other, hearlier, Bool.eq_true_of_not_eq_false hopen⟩
  · rw [if_neg hlt] at hearlier
    cases hearlier

/-- Whether an event is the last one of a pump: the end of its stream, a failure that it passes on,
and a message that nobody receives. -/
def Event.isFinal : Event → Bool
  | .read _ .closed | .send _ (.failed _) | .refuse _ _ => true
  | _ => false

namespace Setting

/-! ## What is read -/

theorem take_length_readings (setting : Setting) (n : ℕ) :
    setting.answers.take (setting.pumping n).readings.length = (setting.pumping n).readings := by
  induction n with
  | zero => exact Stream'.Seq.take_zero
  | succ n ih =>
      cases setting.step n with
      | read hstage hanswer hnext hpast hreadings hsent =>
          rw [hreadings, List.length_append, List.length_singleton, take_succ, ih, hanswer,
            Option.toList_some]
      | send hheld hheard hnext hpast hreadings hsent => rw [hreadings, ih]
      | refuse hheld hheard hnext hpast hreadings hsent => rw [hreadings, ih]
      | rest hidle hnext => rw [hnext, ih]

/-- A pump that may still come to read has met no last reading. -/
theorem isLast_eq_false_of_mem
    (setting : Setting) {n : ℕ} (hstage : (setting.pumping n).stage.mayRead = true) :
    ∀ reading ∈ (setting.pumping n).readings, reading.isLast = false := by
  induction n with
  | zero => exact nofun
  | succ n ih =>
      cases setting.step n with
      | @read reading hreading hanswer hnext hpast hreadings hsent =>
          have hbefore := ih (by rw [hreading]; rfl)
          have hnew : reading.isLast = false := by
            rw [hnext, Pump.mayRead_after] at hstage
            simpa using hstage
          rw [hreadings]
          intro other hmem
          rcases List.mem_append.mp hmem with hold | hlast
          · exact hbefore other hold
          · rw [List.mem_singleton.mp hlast, hnew]
      | send hheld hheard hnext hpast hreadings hsent =>
          rw [hnext] at hstage
          rw [hreadings]
          exact ih (Pump.mayRead_of_released hstage)
      | refuse hheld hheard hnext hpast hreadings hsent =>
          rw [hnext] at hstage
          cases hstage
      | rest hidle hnext =>
          rw [hnext] at hstage ⊢
          exact ih hstage

/-- Nothing is read behind a last reading. -/
theorem isLast_eq_false_of_mem_dropLast (setting : Setting) (n : ℕ) :
    ∀ reading ∈ (setting.pumping n).readings.dropLast, reading.isLast = false := by
  induction n with
  | zero => exact nofun
  | succ n ih =>
      cases setting.step n with
      | read hstage hanswer hnext hpast hreadings hsent =>
          rw [hreadings, List.dropLast_concat]
          exact setting.isLast_eq_false_of_mem (by rw [hstage]; rfl)
      | send hheld hheard hnext hpast hreadings hsent => rwa [hreadings]
      | refuse hheld hheard hnext hpast hreadings hsent => rwa [hreadings]
      | rest hidle hnext => rwa [hnext]

/-! ## What is sent -/

/-- The pump has sent the messages of all its readings except the one in its hands, or except one
that was refused after the receiver had gone away. -/
theorem filterMap_readings (setting : Setting) (n : ℕ) :
    (setting.pumping n).readings.filterMap (Reading.message? setting.stream) =
        (setting.pumping n).sent ++ (setting.pumping n).held?.toList ∨
      setting.stays < n ∧ (setting.pumping n).stage = .ended ∧
        ∃ lost, (setting.pumping n).readings.filterMap (Reading.message? setting.stream) =
          (setting.pumping n).sent ++ [lost] := by
  induction n with
  | zero => exact .inl rfl
  | succ n ih =>
      have hlater : (n : ℕ∞) < (n + 1 : ℕ) := Nat.cast_lt.mpr n.lt_succ_self
      cases setting.step n with
      | read hstage hanswer hnext hpast hreadings hsent =>
          rcases ih with hall | ⟨-, hended, -⟩
          · left
            rw [Pumping.held?_of_reading hstage, Option.toList_none, List.append_nil] at hall
            rw [hreadings, filterMap_snoc, hall, hsent, Pumping.held?, hnext, Pump.message?_after]
          · rw [hstage] at hended
            cases hended
      | send hheld hheard hnext hpast hreadings hsent =>
          rcases ih with hall | ⟨-, hended, -⟩
          · left
            rw [hheld, Option.toList_some] at hall
            rw [hreadings, hall, hsent, Pumping.held?, hnext, Pump.message?_released,
              Option.toList_none, List.append_nil]
          · rw [Pumping.held?_of_ended hended] at hheld
            cases hheld
      | refuse hheld hheard hnext hpast hreadings hsent =>
          rcases ih with hall | ⟨-, hended, -⟩
          · right
            rw [hheld, Option.toList_some] at hall
            exact ⟨(not_lt.mp hheard).trans_lt hlater, hnext, _, by rw [hreadings, hall, hsent]⟩
          · rw [Pumping.held?_of_ended hended] at hheld
            cases hheld
      | rest hidle hnext =>
          rw [hnext]
          rcases ih with hall | ⟨hgone, hended, hlost⟩
          · exact .inl hall
          · exact .inr ⟨hgone.trans hlater, hended, hlost⟩

theorem sent_append_held?
    (setting : Setting) {n : ℕ} (hstays : (n : ℕ∞) ≤ setting.stays) :
    (setting.pumping n).readings.filterMap (Reading.message? setting.stream) =
      (setting.pumping n).sent ++ (setting.pumping n).held?.toList := by
  rcases setting.filterMap_readings n with hall | ⟨hgone, -, -⟩
  · exact hall
  · exact absurd hstays (not_le.mpr hgone)

theorem sent_prefix (setting : Setting) (n : ℕ) :
    (setting.pumping n).sent <+:
      (setting.pumping n).readings.filterMap (Reading.message? setting.stream) := by
  rcases setting.filterMap_readings n with hall | ⟨-, -, lost, hall⟩
  · exact hall ▸ List.prefix_append _ _
  · exact hall ▸ List.prefix_append _ _

/-- The pump has done what `pump` does with its readings, and goes on as `pump` does. -/
theorem follows (setting : Setting) (n : ℕ) :
    Follows setting.stream (setting.pumping n).sent (setting.pumping n).readings
      (setting.pumping n).stage := by
  induction n with
  | zero =>
      refine ⟨rfl, ?_⟩
      intro todo htodo room more
      cases htodo
      simp [pumping, Pumping.sent, Pumping.readings, Pumped.behind]
  | succ n ih =>
      cases setting.step n with
      | @read reading hstage hanswer hnext hpast hreadings hsent =>
          rw [hstage] at ih
          rw [hreadings, hsent, hnext]
          exact ih.read reading
      | send hheld hheard hnext hpast hreadings hsent =>
          rw [hreadings, hsent, hnext]
          exact ih.send hheld
      | refuse hheld hheard hnext hpast hreadings hsent =>
          rw [hreadings, hsent, hnext]
          exact ih.refuse
      | rest hidle hnext => rwa [hnext]

/-- Where the pump has ended, `pump` leaves everything that might still be read. -/
theorem pump_append_of_ended
    (setting : Setting) {n : ℕ} (hended : (setting.pumping n).stage = .ended)
    (more : List Reading) :
    pump setting.stream (setting.pumping n).sent.length ((setting.pumping n).readings ++ more) =
      ⟨(setting.pumping n).sent, more⟩ := by
  induction n with
  | zero => cases hended
  | succ n ih =>
      have hgoes := (setting.follows n).2
      cases setting.step n with
      | @read reading hstage hanswer hnext hpast hreadings hsent =>
          have hclosed : reading = .closed := Pump.eq_closed_of_after (hnext.symm.trans hended)
          have hpump := hgoes [] (by rw [hstage]; rfl) 0 (.closed :: more)
          rw [hreadings, hsent, hclosed, List.append_assoc]
          simpa [pump, Pumped.behind] using hpump
      | send hheld hheard hnext hpast hreadings hsent =>
          obtain ⟨cause, hfailing⟩ := Pump.exists_eq_failing hheld (hnext.symm.trans hended)
          have hpump := hgoes [.failed cause] (by rw [hfailing]; rfl) 1 more
          rw [Pumping.held?, hfailing] at hheld
          cases hheld
          rw [hreadings, hsent]
          simpa [pump, Pumped.behind] using hpump
      | refuse hheld hheard hnext hpast hreadings hsent =>
          obtain ⟨reading, htodo, hmessage⟩ := Pump.exists_todo hheld
          have hpump := hgoes [reading] htodo 0 more
          have hrefused := pump_refused setting.stream (List.forall_mem_nil _) hmessage more
          rw [List.filterMap_nil, List.length_nil, List.nil_append] at hrefused
          rw [List.singleton_append, hrefused] at hpump
          rw [hreadings, hsent]
          simpa [Pumped.behind] using hpump
      | rest hidle hnext =>
          rw [hnext] at hended ⊢
          exact ih hended

/-! ## What is final -/

/-- A pump that does something has not ended before, and has ended then if that was final. -/
theorem past_cases (setting : Setting) (n : ℕ) :
    setting.pumping (n + 1) = setting.pumping n ∨
      ∃ event, (setting.pumping (n + 1)).past = (setting.pumping n).past ++ [event] ∧
        (setting.pumping n).stage ≠ .ended ∧
        (event.isFinal = true → (setting.pumping (n + 1)).stage = .ended) := by
  cases setting.step n with
  | @read reading hstage hanswer hnext hpast hreadings hsent =>
      have hreads : (setting.pumping n).stage ≠ .ended := by
        intro hended
        rw [hstage] at hended
        cases hended
      refine .inr ⟨_, hpast, hreads, ?_⟩
      intro hfinal
      rw [hnext]
      cases reading with
      | closed => rfl
      | piece bytes => cases hfinal
      | interrupted => cases hfinal
      | failed cause => cases hfinal
  | @send message hheld hheard hnext hpast hreadings hsent =>
      refine .inr ⟨_, hpast, Pump.ne_ended_of_message hheld, ?_⟩
      intro hfinal
      cases message with
      | failed cause =>
          rw [hnext, Pump.eq_failing_of_message hheld]
          rfl
      | piece origin bytes => cases hfinal
  | refuse hheld hheard hnext hpast hreadings hsent =>
      exact .inr ⟨_, hpast, Pump.ne_ended_of_message hheld, fun _ => hnext⟩
  | rest hidle hnext => exact .inl hnext

theorem past_prefix (setting : Setting) {n m : ℕ} (h : n ≤ m) :
    (setting.pumping n).past <+: (setting.pumping m).past := by
  induction m, h using Nat.le_induction with
  | base => exact List.prefix_refl _
  | succ m h ih =>
      rcases setting.past_cases m with hsame | ⟨event, hpast, -, -⟩
      · rwa [hsame]
      · rw [hpast]
        exact ih.trans (List.prefix_append _ _)

/-- Behind something final a pump has done nothing, and it has ended. -/
theorem eq_nil_of_isFinal
    (setting : Setting) {n : ℕ} {before after : List Event} {event : Event}
    (hpast : (setting.pumping n).past = before ++ event :: after) (hfinal : event.isFinal = true) :
    after = [] ∧ (setting.pumping n).stage = .ended := by
  induction n generalizing after with
  | zero => simp [pumping] at hpast
  | succ n ih =>
      rcases setting.past_cases n with hsame | ⟨last, hlast, hstage, hends⟩
      · rw [hsame] at hpast ⊢
        exact ih hpast
      · rw [hlast] at hpast
        rcases List.eq_nil_or_concat after with rfl | ⟨middle, final, rfl⟩
        · obtain ⟨-, heq⟩ := List.append_inj' hpast rfl
          cases heq
          exact ⟨rfl, hends hfinal⟩
        · rw [List.concat_eq_append, ← List.cons_append, ← List.append_assoc] at hpast
          obtain ⟨hearlier, -⟩ := List.append_inj' hpast rfl
          exact absurd (ih hearlier).2 hstage

theorem pumping_of_ended
    (setting : Setting) {n m : ℕ} (hended : (setting.pumping n).stage = .ended) (h : n ≤ m) :
    setting.pumping m = setting.pumping n := by
  induction m, h using Nat.le_induction with
  | base => rfl
  | succ m h ih => rw [pumping, Pumping.step, ih, hended]

theorem sent_of_stays_le
    (setting : Setting) {n m : ℕ} (hgone : setting.stays ≤ n) (h : n ≤ m) :
    (setting.pumping m).sent = (setting.pumping n).sent := by
  induction m, h using Nat.le_induction with
  | base => rfl
  | succ m h ih =>
      have hstill : setting.stays ≤ m := hgone.trans (Nat.cast_le.mpr h)
      cases setting.step m with
      | read hstage hanswer hnext hpast hreadings hsent => rw [hsent, ih]
      | send hheld hheard hnext hpast hreadings hsent => exact absurd hheard (not_lt.mpr hstill)
      | refuse hheld hheard hnext hpast hreadings hsent => rw [hsent, ih]
      | rest hidle hnext => rw [hnext, ih]

/-- A message that nobody receives is the last thing that the pump deals with. -/
theorem past_of_stays_le
    (setting : Setting) {n m : ℕ} {message : Message} (hgone : setting.stays ≤ n)
    (hheld : (setting.pumping n).held? = some message) (h : n < m) :
    (setting.pumping m).past =
      (setting.pumping n).past ++ [.refuse setting.stream message] := by
  obtain ⟨-, ⟨hheard, -⟩ | ⟨-, hended, hpast⟩⟩ := (setting.step n).of_held hheld
  · exact absurd hheard (not_lt.mpr hgone)
  · rw [setting.pumping_of_ended hended h, hpast]

end Setting

end CrossGen.Relay
