import AuthServer.Time.Instant

/-!
The calendar has a first and a last instant, and a span may lead out of it at either end. Instants
count whole seconds that fit into signed words of 64 bits.
-/

namespace AuthServer.Instant

def first : Instant := ⟨-8334601228800 * nanosPerSecond, by decide, by decide⟩

def Underruns (instant : Instant) (span : Span) : Prop :=
  instant.nanos + span.nanos < first.nanos

instance (instant : Instant) (span : Span) : Decidable (instant.Underruns span) :=
  inferInstanceAs (Decidable (_ < _))

/-! ## Whole seconds -/

theorem seconds_mono {earlier later : Instant} (ordered : earlier.nanos ≤ later.nanos) :
    earlier.seconds ≤ later.seconds :=
  Int.ediv_le_ediv (by decide) ordered

theorem first_le_seconds (instant : Instant) : first.seconds ≤ instant.seconds :=
  seconds_mono instant.first_le

theorem seconds_le_last (instant : Instant) : instant.seconds ≤ last.seconds :=
  seconds_mono (Int.le_sub_one_of_lt instant.lt_end)

theorem toInt_seconds_add (instant : Instant) {offset : Int} (positive : 0 ≤ offset)
    (small : offset ≤ 1000000000000000000) :
    (Int64.ofInt (instant.seconds + offset)).toInt = instant.seconds + offset := by
  have first_le := instant.first_le_seconds
  have le_last := instant.seconds_le_last
  rw [show first.seconds = -8334601228800 from by decide] at first_le
  rw [show last.seconds = 8210266876799 from by decide] at le_last
  exact Int64.toInt_ofInt_of_le (by omega) (by omega)

theorem toInt_seconds (instant : Instant) :
    (Int64.ofInt instant.seconds).toInt = instant.seconds := by
  simpa using toInt_seconds_add instant (Int.le_refl 0) (by decide)

/-! ## Moving -/

theorem ediv_add_ofSeconds (instant : Instant) (seconds : Int) :
    (instant.nanos + (Span.ofSeconds seconds).nanos) / nanosPerSecond =
      instant.seconds + seconds := by
  simp only [Instant.seconds, Span.ofSeconds, nanosPerSecond]
  omega

theorem nanos_of_add? {instant moved : Instant} {span : Span}
    (found : instant.add? span = some moved) : moved.nanos = instant.nanos + span.nanos := by
  rw [add?, ofNanos?] at found
  split at found
  · cases found
    rfl
  · cases found

theorem add?_eq_none_iff {instant : Instant} {span : Span} :
    instant.add? span = none ↔
      instant.Underruns span ∨ last.nanos < instant.nanos + span.nanos := by
  rw [add?, ofNanos?, dite_eq_right_iff]
  simp only [reduceCtorEq, imp_false, Underruns, first, last, nanosPerSecond]
  omega

/-- A sum beyond either end of the calendar is replaced by the last instant. -/
theorem seconds_add? (instant : Instant) (span : Span) :
    ((instant.add? span).getD last).seconds =
      if instant.Underruns span then last.seconds
      else min ((instant.nanos + span.nanos) / nanosPerSecond) last.seconds := by
  cases found : instant.add? span with
  | none =>
      rw [Option.getD_none]
      rcases add?_eq_none_iff.mp found with under | beyond
      · rw [if_pos under]
      · have late : last.seconds ≤ (instant.nanos + span.nanos) / nanosPerSecond :=
          Int.ediv_le_ediv (by decide) (Int.le_of_lt beyond)
        rw [Int.min_eq_right late, ite_self]
  | some moved =>
      have reached : ¬instant.Underruns span := fun under => by
        rw [add?_eq_none_iff.mpr (.inl under)] at found
        cases found
      have second := moved.seconds_le_last
      rw [seconds, nanos_of_add? found] at second
      rw [Option.getD_some, if_neg reached, Int.min_eq_left second, seconds, nanos_of_add? found]

theorem seconds_add?_ofSeconds {instant : Instant} {seconds : Int}
    (inside : first.seconds ≤ instant.seconds + seconds) :
    ((instant.add? (.ofSeconds seconds)).getD last).seconds =
      min (instant.seconds + seconds) last.seconds := by
  have firstSecond : first.seconds = -8334601228800 := by decide
  have moved := instant.ediv_add_ofSeconds seconds
  have reached : ¬instant.Underruns (.ofSeconds seconds) := by
    simp only [Underruns, first, nanosPerSecond] at moved ⊢
    omega
  rw [seconds_add?, if_neg reached, moved]

end AuthServer.Instant
