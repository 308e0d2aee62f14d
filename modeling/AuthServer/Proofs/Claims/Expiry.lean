import AuthServer.Claims
import AuthServer.Proofs.Time.Instant

/-!
When the claims of a login expire. Claims that are given more time expire no earlier, with one
exception: whose lifetime leads to before the first instant of the calendar is given all the time
that is left.
-/

namespace AuthServer

namespace Claims

open Instant

variable {principal : Principal} {issuer : String} {now : Instant}

theorem issuedAt_forPrincipal (lifetime : Span) :
    (forPrincipal principal issuer now lifetime).issuedAt.toInt = now.seconds :=
  now.toInt_seconds

theorem expiresAt_forPrincipal (lifetime : Span) :
    (forPrincipal principal issuer now lifetime).expiresAt.toInt =
      if now.Underruns lifetime then last.seconds
      else min ((now.nanos + lifetime.nanos) / nanosPerSecond) last.seconds := by
  rw [forPrincipal, toInt_seconds, seconds_add?]

theorem expiresAt_ofSeconds {seconds : Int} (inside : first.seconds ≤ now.seconds + seconds) :
    (forPrincipal principal issuer now (.ofSeconds seconds)).expiresAt.toInt =
      min (now.seconds + seconds) last.seconds := by
  rw [forPrincipal, toInt_seconds, seconds_add?_ofSeconds inside]

theorem expiresAt_le_last (lifetime : Span) :
    (forPrincipal principal issuer now lifetime).expiresAt.toInt ≤ last.seconds := by
  rw [expiresAt_forPrincipal]
  split
  · exact Int.le_refl _
  · exact Int.min_le_right _ _

theorem expiresAt_mono {shorter longer : Span} (ordered : shorter.nanos ≤ longer.nanos)
    (inside : ¬now.Underruns shorter) :
    (forPrincipal principal issuer now shorter).expiresAt.toInt ≤
      (forPrincipal principal issuer now longer).expiresAt.toInt := by
  have insideToo : ¬now.Underruns longer := by
    unfold Underruns at inside ⊢
    omega
  have sums : (now.nanos + shorter.nanos) / nanosPerSecond ≤
      (now.nanos + longer.nanos) / nanosPerSecond :=
    Int.ediv_le_ediv (by decide) (by omega)
  rw [expiresAt_forPrincipal, expiresAt_forPrincipal, if_neg inside, if_neg insideToo]
  omega

theorem expiresAt_le_issuedAt {lifetime : Span} (spent : lifetime.nanos ≤ 0)
    (inside : ¬now.Underruns lifetime) :
    (forPrincipal principal issuer now lifetime).expiresAt.toInt ≤
      (forPrincipal principal issuer now lifetime).issuedAt.toInt := by
  have sum : (now.nanos + lifetime.nanos) / nanosPerSecond ≤ now.seconds :=
    Int.ediv_le_ediv (by decide) (by omega)
  rw [expiresAt_forPrincipal, issuedAt_forPrincipal, if_neg inside]
  omega

/-- Of two lifetimes the longer one expires no earlier, and one of zero or less not after its
beginning, unless the shorter one leads to before the first instant: then it lasts to the last
second, which is not exceeded but may be reached. -/
theorem expiresAt_mono_iff (principal : Principal) (issuer : String) (now : Instant)
    {shorter longer : Span} (ordered : shorter.nanos ≤ longer.nanos) :
    ((forPrincipal principal issuer now shorter).expiresAt.toInt ≤
        (forPrincipal principal issuer now longer).expiresAt.toInt ↔
      ¬now.Underruns shorter ∨
        (forPrincipal principal issuer now longer).expiresAt.toInt = last.seconds) ∧
    (shorter.nanos ≤ 0 →
      ((forPrincipal principal issuer now shorter).expiresAt.toInt ≤
          (forPrincipal principal issuer now shorter).issuedAt.toInt ↔
        ¬now.Underruns shorter ∨ now.seconds = last.seconds)) ∧
    (now.Underruns shorter →
      (forPrincipal principal issuer now shorter).expiresAt.toInt = last.seconds) := by
  have endless (under : now.Underruns shorter) :
      (forPrincipal principal issuer now shorter).expiresAt.toInt = last.seconds := by
    rw [expiresAt_forPrincipal, if_pos under]
  refine ⟨⟨fun later => ?_, fun exact => ?_⟩, fun spent => ⟨fun atOnce => ?_, fun exact => ?_⟩,
    endless⟩
  · by_cases under : now.Underruns shorter
    · rw [endless under] at later
      exact .inr (Int.le_antisymm (expiresAt_le_last longer) later)
    · exact .inl under
  · rcases exact with inside | full
    · exact expiresAt_mono ordered inside
    · rw [full]
      exact expiresAt_le_last shorter
  · by_cases under : now.Underruns shorter
    · rw [endless under, issuedAt_forPrincipal] at atOnce
      exact .inr (Int.le_antisymm now.seconds_le_last atOnce)
    · exact .inl under
  · rcases exact with inside | full
    · exact expiresAt_le_issuedAt spent inside
    · rw [issuedAt_forPrincipal, full]
      exact expiresAt_le_last shorter

end Claims

/-! ## Two lifetimes -/

def Principal.sample : Principal := ⟨"u", ⟨false, true⟩, "n"⟩

namespace Claims

theorem expiresAt_mono_iff_sample :
    (Span.ofSeconds (-60)).nanos ≤ (Span.ofSeconds 60).nanos ∧
      (forPrincipal .sample "i" .epoch (.ofSeconds (-60))).expiresAt.toInt ≤
        (forPrincipal .sample "i" .epoch (.ofSeconds 60)).expiresAt.toInt :=
  have ordered : (Span.ofSeconds (-60)).nanos ≤ (Span.ofSeconds 60).nanos := by decide
  ⟨ordered, (expiresAt_mono_iff .sample "i" .epoch ordered).1.mpr (.inl (by decide))⟩

/-- The shortest span there is outlives one of no length, and the login itself. -/
theorem not_expiresAt_mono :
    Span.shortest.nanos ≤ (Span.ofSeconds 0).nanos ∧
      ¬(forPrincipal .sample "i" .epoch .shortest).expiresAt.toInt ≤
        (forPrincipal .sample "i" .epoch (.ofSeconds 0)).expiresAt.toInt ∧
      ¬(forPrincipal .sample "i" .epoch .shortest).expiresAt.toInt ≤
        (forPrincipal .sample "i" .epoch .shortest).issuedAt.toInt := by
  decide

end Claims

end AuthServer
