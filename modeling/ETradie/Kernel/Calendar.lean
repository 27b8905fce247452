import Mathlib.Tactic

namespace ETradie.Kernel

variable (t : Int)

def utcDay : Int := t / 86400

def utcHour : Int := t % 86400 / 3600

def weekday (day : Int) : Int := (day + 3) % 7

def weekIndex (day : Int) : Int := (day + 3) / 7

def yearStart (year : Int) : Int :=
  365 * (year - 1) + (year - 1) / 4 - (year - 1) / 100 + (year - 1) / 400 - 719162

variable (n : Int)

def yearOf : Int :=
  let d := n + 719162
  let n400 := d / 146097
  let d100 := d - 146097 * n400
  let n100 := d100 / 36524 - d100 / 36524 / 4
  let d4 := d100 - 36524 * n100
  let n4 := d4 / 1461
  let d1 := d4 - 1461 * n4
  let n1 := d1 / 365 - d1 / 365 / 4
  400 * n400 + 100 * n100 + 4 * n4 + n1 + 1

def dayOfYear : Int := n - yearStart (yearOf n)

def isLeap (year : Int) : Bool := year % 4 = 0 && (year % 100 ≠ 0 || year % 400 = 0)

def daysBeforeMonth (leap : Bool) (month : Nat) : Int :=
  let days := ([0, 0, 31, 59, 90, 120, 151, 181, 212, 243, 273, 304, 334].getD month 0 : Int)
  if leap && month > 2 then days + 1 else days

structure Date where
  year : Int
  month : Nat
  day : Int
deriving DecidableEq

def civil : Date :=
  let leap := isLeap (yearOf n)
  let month := ((List.range' 1 12).filter (fun m => daysBeforeMonth leap m ≤ dayOfYear n)).length
  { year := yearOf n, month := month, day := dayOfYear n - daysBeforeMonth leap month + 1 }

def dayNumber (d : Date) : Int :=
  yearStart d.year + daysBeforeMonth (isLeap d.year) d.month + d.day - 1

structure IsoWeek where
  (year week : Int)
deriving DecidableEq

def isoWeek : IsoWeek :=
  let thursday := 7 * weekIndex n
  { year := yearOf thursday, week := dayOfYear thursday / 7 + 1 }

example : civil 20527 = ⟨2026, 3, 15⟩ ∧ isoWeek 20527 = ⟨2026, 11⟩ := by decide +kernel

example : civil 19782 = ⟨2024, 2, 29⟩ ∧ isoWeek 20454 = ⟨2026, 1⟩ := by decide +kernel

theorem dayNumber_civil : dayNumber (civil n) = n := by
  simp only [dayNumber, civil, dayOfYear]
  omega

theorem civil_injective : Function.Injective civil := Function.LeftInverse.injective dayNumber_civil

theorem isoWeek_eq_iff (m n : Int) : isoWeek m = isoWeek n ↔ weekIndex m = weekIndex n := by
  constructor
  · intro h
    obtain ⟨hyear, hwk⟩ := IsoWeek.mk.inj h
    simp only [dayOfYear] at hwk
    rw [hyear] at hwk
    omega
  · intro h
    simp only [isoWeek, h]

theorem weekIndex_mono {m n : Int} (h : m ≤ n) : weekIndex m ≤ weekIndex n := by
  unfold weekIndex
  omega

theorem utcDay_mono {s t : Int} (h : s ≤ t) : utcDay s ≤ utcDay t := by
  unfold utcDay
  omega

theorem dayOfYear_bounds : 0 ≤ dayOfYear n ∧ dayOfYear n ≤ 365 := by
  simp only [dayOfYear, yearOf]
  -- the quotients, from the longest cycle to the shortest
  generalize hn400 : (n + 719162) / 146097 = n400
  generalize hd100 : n + 719162 - 146097 * n400 = d100
  generalize hn100 : d100 / 36524 - d100 / 36524 / 4 = n100
  generalize hd4 : d100 - 36524 * n100 = d4
  have hb4 : 0 ≤ d4 ∧ d4 ≤ 36524 := by omega
  generalize hn4 : d4 / 1461 = n4
  generalize hd1 : d4 - 1461 * n4 = d1
  generalize hn1 : d1 / 365 - d1 / 365 / 4 = n1
  have hyea : yearStart (400 * n400 + 100 * n100 + 4 * n4 + n1 + 1) =
      146097 * n400 + 36524 * n100 + 1461 * n4 + 365 * n1 - 719162 := by
    have hyear : 400 * n400 + 100 * n100 + 4 * n4 + n1 + 1 - 1 =
        400 * n400 + 100 * n100 + 4 * n4 + n1 := by omega
    have hle4 : (400 * n400 + 100 * n100 + 4 * n4 + n1) / 4 = 100 * n400 + 25 * n100 + n4 := by
      omega
    have hlea : (400 * n400 + 100 * n100 + 4 * n4 + n1) / 100 = 4 * n400 + n100 := by omega
    have hlp4 : (400 * n400 + 100 * n100 + 4 * n4 + n1) / 400 = n400 := by omega
    unfold yearStart
    rw [hyear]
    omega
  omega

theorem month_bounds :
    ∀ leap : Bool, ∀ d : Fin 366,
      let month := ((List.range' 1 12).filter (fun m => daysBeforeMonth leap m ≤ (d : Int))).length
      1 ≤ month ∧ month ≤ 12 ∧ 0 ≤ (d : Int) - daysBeforeMonth leap month ∧
        (d : Int) - daysBeforeMonth leap month ≤ 31 := by
  decide +kernel

theorem civil_bounds :
    1 ≤ (civil n).month ∧ (civil n).month ≤ 12 ∧ 1 ≤ (civil n).day ∧ (civil n).day ≤ 32 := by
  obtain ⟨hlow, hhi⟩ := dayOfYear_bounds n
  have hday := month_bounds (isLeap (yearOf n)) ⟨(dayOfYear n).toNat, by omega⟩
  simp only [Int.toNat_of_nonneg hlow] at hday
  obtain ⟨h1, h2, h3, h4⟩ := hday
  simp only [civil]
  exact ⟨h1, h2, by omega, by omega⟩

def dayNanos : Int := 86400 * 1000000000

def nanoDay : Int := t / dayNanos

theorem nanoDay_mono {s t : Int} (h : s ≤ t) : nanoDay s ≤ nanoDay t := by
  unfold nanoDay dayNanos
  omega

def addMonth : Int :=
  let d := civil (nanoDay t)
  let next : Date := if d.month = 12 then ⟨d.year + 1, 1, d.day⟩ else ⟨d.year, d.month + 1, d.day⟩
  dayNumber next * dayNanos + t % dayNanos

end ETradie.Kernel
