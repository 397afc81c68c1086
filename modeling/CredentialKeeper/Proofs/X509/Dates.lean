import CredentialKeeper.Proofs.Time.Moments
import CredentialKeeper.X509.Certificate

/-! # The dates of certificates are moments

A date in a certificate has a year of at most four digits, and a zone is ahead or behind by less
than 26 hours, so every date that can be read is a moment (`Certificate.isDated_of_ofBytes`). -/

namespace CredentialKeeper

theorem bind_eq_ok_iff {ε α β : Type} {x : Except ε α} {f : α → Except ε β} {b : β} :
    x >>= f = .ok b ↔ ∃ a, x = .ok a ∧ f a = .ok b := by
  cases x with
  | ok a => simp [bind, Except.bind]
  | error e => simp [bind, Except.bind]

/-! ## Seconds of a date -/

/-- The days of the years 0 to 9999, give or take a year. -/
theorem Date.toDays_bounds {d : Date} (hy : 0 ≤ d.year) (hy' : d.year ≤ 9999)
    (hvalid : d.isValid = true) : -720000 ≤ d.toDays ∧ d.toDays ≤ 2933000 := by
  obtain ⟨year, month, day⟩ := d
  have hy : 0 ≤ year := hy
  have hy' : year ≤ 9999 := hy'
  simp only [isValid, Bool.and_eq_true, decide_eq_true_eq] at hvalid
  obtain ⟨⟨⟨hm, hm'⟩, hd⟩, hd'⟩ := hvalid
  have hlong : daysInMonth year month ≤ 31 := by
    unfold daysInMonth
    split
    next => split <;> decide
    all_goals decide
  have hday : day ≤ 31 := Nat.le_trans hd' hlong
  simp only [toDays]
  split <;> omega

namespace Timestamp

/-- Seconds since 1970 of a time in the years 0 to 9999, give or take a year. -/
def IsDated (seconds : Int) : Prop := -62300000000 ≤ seconds ∧ seconds ≤ 253500000000

theorem IsDated.moment {seconds : Int} (h : IsDated seconds) :
    ∃ m, Moment.ofSeconds? seconds = some m ∧ m.nanos = seconds * nanosPerSecond := by
  obtain ⟨h0, h1⟩ := h
  refine Moment.ofNanos?_of_mem ?_ ?_
  · rw [Moment.first_nanos, nanosPerSecond]
    omega
  · rw [Moment.last_nanos, nanosPerSecond]
    omega

theorem twoDigits?_le {bytes rest : List UInt8} {n : Nat}
    (h : twoDigits? bytes = some (n, rest)) : n ≤ 99 := by
  unfold twoDigits? at h
  split at h
  next a b rest =>
    split at h
    next hdigits =>
      cases h
      obtain ⟨-, ha, -, hb⟩ := hdigits
      have ha : a.toNat ≤ 57 := ha
      have hb : b.toNat ≤ 57 := hb
      omega
    next => cases h
  next => cases h

theorem pairs?_le {count : Nat} {bytes rest : List UInt8} {ns : List Nat}
    (h : pairs? count bytes = some (ns, rest)) : ∀ n ∈ ns, n ≤ 99 := by
  induction count generalizing bytes ns with
  | zero =>
    cases h
    simp
  | succ count ih =>
    rw [pairs?] at h
    split at h
    next => cases h
    next n bytes hn =>
      obtain ⟨⟨ns, rest⟩, hns, h⟩ := Option.map_eq_some_iff.1 h
      cases h
      exact List.forall_mem_cons.2 ⟨twoDigits?_le hn, ih hns⟩

theorem secondsOf?_bounds {year : Int} {month day hour minute second : Nat} {t : Int}
    (hy : 0 ≤ year) (hy' : year ≤ 9999)
    (h : secondsOf? year month day hour minute second = some t) :
    -62250000000 ≤ t ∧ t ≤ 253450000000 := by
  simp only [secondsOf?] at h
  split at h
  next hvalid =>
    simp only [Bool.and_eq_true, decide_eq_true_eq] at hvalid
    obtain ⟨⟨⟨hdate, hhour⟩, hminute⟩, hsecond⟩ := hvalid
    cases h
    obtain ⟨h0, h1⟩ := Date.toDays_bounds hy hy' hdate
    omega
  next => cases h

end Timestamp

namespace X509
open Timestamp

theorem zoneOffset?_bounds {isBehind : Bool} {bytes : List UInt8} {t : Int}
    (h : zoneOffset? isBehind bytes = some t) : -100000 ≤ t ∧ t ≤ 100000 := by
  unfold zoneOffset? at h
  split at h
  next hours minutes _ =>
    split at h
    next hzone =>
      obtain ⟨hh, hm⟩ := hzone
      cases h
      split <;> omega
    next => cases h
  next => cases h

theorem zone?_bounds {bytes : List UInt8} {t : Int} (h : zone? bytes = some t) :
    -100000 ≤ t ∧ t ≤ 100000 := by
  unfold zone? at h
  split at h
  next =>
    cases h
    decide
  next => exact zoneOffset?_bounds h
  next => exact zoneOffset?_bounds h
  next => cases h

theorem isDated_of_shortDate? {bytes : List UInt8} {t : Int} (h : shortDate? bytes = some t) :
    IsDated t := by
  unfold shortDate? at h
  split at h
  next year month day hour minute rest hpairs =>
    split at h
    next => cases h
    next second rest _ =>
      split at h
      next seconds offset hseconds hzone =>
        cases h
        have hyear : year ≤ 99 := pairs?_le hpairs year (.head _)
        have hcentury : centuryYear year ≤ 9999 := by
          unfold centuryYear
          split <;> omega
        have hb := secondsOf?_bounds (Int.natCast_nonneg _) (Int.ofNat_le.2 hcentury) hseconds
        have hb' := zone?_bounds hzone
        unfold IsDated
        omega
      next => cases h
  next => cases h

theorem isDated_of_longDate? {bytes : List UInt8} {t : Int} (h : longDate? bytes = some t) :
    IsDated t := by
  unfold longDate? at h
  split at h
  next century year month day hour minute rest hpairs =>
    split at h
    next => cases h
    next second rest _ =>
      obtain ⟨-, h⟩ := Option.ite_none_right_eq_some.1 h
      have hcentury : century ≤ 99 := pairs?_le hpairs century (.head _)
      have hyear : year ≤ 99 := pairs?_le hpairs year (.tail _ (.head _))
      have hb := secondsOf?_bounds (by omega) (by omega) h
      unfold IsDated
      omega
  next => cases h

theorem isDated_of_readDate {bytes rest : List UInt8} {t : Int}
    (h : readDate bytes = .ok (t, rest)) : IsDated t := by
  unfold readDate at h
  split at h
  next => cases h
  next e rest' _ =>
    simp only at h
    split at h
    next t' hdate =>
      cases h
      split at hdate
      next => exact isDated_of_shortDate? hdate
      next =>
        split at hdate
        next => exact isDated_of_longDate? hdate
        next => cases hdate
    next => cases h

theorem isDated_of_readValidity {bytes rest : List UInt8} {notBefore notAfter : Int}
    (h : readValidity bytes = .ok ((notBefore, notAfter), rest)) :
    IsDated notBefore ∧ IsDated notAfter := by
  unfold readValidity at h
  split at h
  next => cases h
  next contents rest' _ =>
    split at h
    next => cases h
    next first contents' hfirst =>
      split at h
      next => cases h
      next second _ hsecond =>
        cases h
        exact ⟨isDated_of_readDate hfirst, isDated_of_readDate hsecond⟩

theorem isDated_of_readBody {bytes : List UInt8} {c : Certificate}
    (h : readBody bytes = .ok c) : IsDated c.notBefore ∧ IsDated c.notAfter := by
  simp only [readBody, bind_eq_ok_iff] at h
  obtain ⟨_, -, _, -, _, -, _, -, ⟨⟨notBefore, notAfter⟩, _⟩, hvalidity, h⟩ := h
  obtain ⟨_, -, _, -, _, -, _, -, _, -, h⟩ := h
  cases h
  exact isDated_of_readValidity hvalidity

theorem Certificate.isDated_of_ofBytes {bytes : List UInt8} {c : Certificate}
    (h : ofBytes bytes = .ok c) : IsDated c.notBefore ∧ IsDated c.notAfter := by
  simp only [ofBytes, bind_eq_ok_iff] at h
  obtain ⟨_, -, _, -, certificate, hbody, _, -, _, -, h⟩ := h
  cases h
  exact isDated_of_readBody hbody

end X509

end CredentialKeeper
