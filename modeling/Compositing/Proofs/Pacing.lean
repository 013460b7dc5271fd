import Compositing.Pace.FrameBudget
import Mathlib.Data.List.Induction
import Mathlib.Order.MinMax

/-!
# The budget of a frame is computed exactly

Words of 64 bits wrap around silently. Here each operation has a twin that gives the word of the
true result, or says that there is none, and the budget has a twin that is computed with these.
Where the twin succeeds it gives what the budget is, so nothing wraps around. A rate to keep step
with must not exceed 10^9, and the time for the blank must be less than 2^63 - 1 nanoseconds. Then
the interval is positive and the time for the blank is less than the greatest word, which is all
that the sums need: this is what every call on the budget keeps.
-/

namespace Compositing

/-! ## Words that do not wrap around -/

inductive WordFault where
  /-- The true result is no word. -/
  | overflow
  | divisionByZero
deriving DecidableEq

namespace Word

def InRange (n : Int) : Prop := -9223372036854775808 ≤ n ∧ n ≤ 9223372036854775807

instance (n : Int) : Decidable (InRange n) := inferInstanceAs (Decidable (_ ∧ _))

def exact (n : Int) : Except WordFault Int64 :=
  if InRange n then .ok (Int64.ofInt n) else .error .overflow

def add (a b : Int64) : Except WordFault Int64 := exact (a.toInt + b.toInt)

def sub (a b : Int64) : Except WordFault Int64 := exact (a.toInt - b.toInt)

def mul (a b : Int64) : Except WordFault Int64 := exact (a.toInt * b.toInt)

/-- Rounds towards zero. -/
def div (a b : Int64) : Except WordFault Int64 :=
  if b = 0 then .error .divisionByZero else exact (a.toInt.tdiv b.toInt)

/-- The word nearest to the true difference. -/
def saturatingSub (a b : Int64) : Int64 :=
  Int64.ofInt (max (-9223372036854775808) (min 9223372036854775807 (a.toInt - b.toInt)))

variable {a b : Int64} {n : Int}

theorem inRange_toInt (a : Int64) : InRange a.toInt := by
  have low := a.le_toInt
  have high := a.toInt_lt
  constructor <;> omega

theorem toInt_ofInt (h : InRange n) : (Int64.ofInt n).toInt = n := by
  obtain ⟨low, high⟩ := h
  exact Int64.toInt_ofInt_of_le (by omega) (by omega)

theorem max_toInt (a b : Int64) : (max a b).toInt = max a.toInt b.toInt := by
  have eq : max a b = if a ≤ b then b else a := rfl
  rw [eq]
  split
  · rename_i h
    have h := Int64.le_iff_toInt_le.mp h
    omega
  · rename_i h
    have h := mt Int64.le_iff_toInt_le.mpr h
    omega

theorem max_toNat (a b : UInt64) : (max a b).toNat = max a.toNat b.toNat := by
  have eq : max a b = if a ≤ b then b else a := rfl
  rw [eq]
  split
  · rename_i h
    have h := UInt64.le_iff_toNat_le.mp h
    omega
  · rename_i h
    have h := mt UInt64.le_iff_toNat_le.mpr h
    omega

theorem min_toNat (a b : UInt64) : (min a b).toNat = min a.toNat b.toNat := by
  have eq : min a b = if a ≤ b then a else b := rfl
  rw [eq]
  split
  · rename_i h
    have h := UInt64.le_iff_toNat_le.mp h
    omega
  · rename_i h
    have h := mt UInt64.le_iff_toNat_le.mpr h
    omega

/-- A number that is not negative is the same without a sign. -/
theorem toUInt64_toNat (h : 0 ≤ a.toInt) : a.toUInt64.toNat = a.toInt.toNat :=
  Int64.toNat_toUInt64_of_le (Int64.le_iff_toInt_le.mpr h)

theorem exact_eq_ok (h : InRange n) : exact n = .ok (Int64.ofInt n) := if_pos h

theorem add_eq_ok (h : InRange (a.toInt + b.toInt)) :
    add a b = .ok (a + b) ∧ (a + b).toInt = a.toInt + b.toInt := by
  have same : Int64.ofInt (a.toInt + b.toInt) = a + b := by simp
  exact ⟨same ▸ exact_eq_ok h, same ▸ toInt_ofInt h⟩

theorem sub_eq_ok (h : InRange (a.toInt - b.toInt)) :
    sub a b = .ok (a - b) ∧ (a - b).toInt = a.toInt - b.toInt := by
  have same : Int64.ofInt (a.toInt - b.toInt) = a - b := by simp
  exact ⟨same ▸ exact_eq_ok h, same ▸ toInt_ofInt h⟩

theorem mul_eq_ok (h : InRange (a.toInt * b.toInt)) :
    mul a b = .ok (a * b) ∧ (a * b).toInt = a.toInt * b.toInt := by
  have same : Int64.ofInt (a.toInt * b.toInt) = a * b := by simp
  exact ⟨same ▸ exact_eq_ok h, same ▸ toInt_ofInt h⟩

/-- A division by a positive word always has a result. -/
theorem div_eq_ok (positive : 0 < b.toInt) :
    div a b = .ok (a / b) ∧ (a / b).toInt = a.toInt.tdiv b.toInt := by
  have nonzero : b ≠ 0 := by
    rintro rfl
    exact absurd positive (by decide)
  have proper : b ≠ -1 := by
    rintro rfl
    exact absurd positive (by decide)
  have quotient := Int64.toInt_div_of_ne_right a b proper
  refine ⟨?_, quotient⟩
  rw [div, if_neg nonzero, ← quotient, exact_eq_ok (inRange_toInt _), Int64.ofInt_toInt]

theorem div_zero (a : Int64) : div a 0 = .error .divisionByZero := if_pos rfl

theorem saturatingSub_toInt (a b : Int64) : (saturatingSub a b).toInt =
    max (-9223372036854775808) (min 9223372036854775807 (a.toInt - b.toInt)) :=
  toInt_ofInt (by constructor <;> omega)

end Word

/-! ## The budget without wrapping around -/

def waitMillisChecked (interval consumed : Int64) : Except WordFault UInt64 :=
  if consumed < interval then do
    let left ← Word.div (Word.saturatingSub interval consumed) 1000000
    return min (max left.toUInt64 1) 250
  else return min 1 250

namespace FrameBudget

def startNowChecked (b : FrameBudget) : Except WordFault FrameBudget := do
  let ahead ← Word.add b.blankTime 1
  let consumed ← Word.sub b.interval ahead
  return { b with consumed := consumed }

def standardChecked : Except WordFault FrameBudget := do
  let interval ← Word.div 1000000000 60
  startNowChecked ⟨interval, 1000000, 6000000, 0⟩

def configureChecked (b : FrameBudget) (interval : Nanos) (rate : UInt32) (syncs : Bool)
    (blankTime : Nanos) : Except WordFault FrameBudget := do
  let wanted := max interval.toWord 1
  if syncs then
    let period ← Word.div 1000000000 (if rate == 0 then 60 else rate.toUInt64.toInt64)
    let periods ← Word.div wanted period
    let rounded ← Word.mul periods period
    startNowChecked { b with
      interval := max rounded period
      refreshPeriod := period
      blankTime := blankTime.toWord }
  else
    startNowChecked { b with
      interval := wanted
      refreshPeriod := 1000000
      blankTime := blankTime.toWord }

end FrameBudget

structure BudgetSetting where
  interval : Nanos
  rate : UInt32
  syncs : Bool
  blankTime : Nanos
deriving DecidableEq

/-- What is asked of a budget. Marking it idle stops the repaint timer besides. -/
inductive BudgetCall where
  | configure (setting : BudgetSetting)
  | startNow
  | recordPaint (sinceBlank : Nanos)
  | markIdle

namespace BudgetCall

/-- A rate to keep step with has a period of a nanosecond at least, and a word has room for the time
for the blank and one nanosecond more. -/
def Modest : BudgetCall → Prop
  | .configure s =>
    (s.syncs = true → s.rate.toNat ≤ 1000000000) ∧ s.blankTime < 9223372036854775807
  | _ => True

def setting? : BudgetCall → Option BudgetSetting
  | .configure s => some s
  | _ => none

/-- The next frame is to be painted right away. -/
def StartsOver : BudgetCall → Prop
  | .recordPaint _ => False
  | _ => True

end BudgetCall

namespace FrameBudget

def answer (b : FrameBudget) : BudgetCall → Except Fault FrameBudget
  | .configure s => b.configure s.interval s.rate s.syncs s.blankTime
  | .startNow | .markIdle => .ok b.startNow
  | .recordPaint sinceBlank => .ok (b.recordPaint sinceBlank)

def answerChecked (b : FrameBudget) : BudgetCall → Except WordFault FrameBudget
  | .configure s => b.configureChecked s.interval s.rate s.syncs s.blankTime
  | .startNow | .markIdle => b.startNowChecked
  | .recordPaint sinceBlank => .ok (b.recordPaint sinceBlank)

end FrameBudget

/-! ## The wait -/

theorem waitMillis_toInt (interval consumed : Int64) : (waitMillis interval consumed : Int) =
    min 250 (max 1 ((interval.toInt - consumed.toInt) / 1000000)) := by
  have room := Word.inRange_toInt interval
  have room' := Word.inRange_toInt consumed
  obtain ⟨low, high⟩ := room
  obtain ⟨low', high'⟩ := room'
  rw [waitMillis]
  split
  · rename_i some
    have some := Int64.lt_iff_toInt_lt.mp some
    dsimp only
    omega
  · rename_i none
    have none := mt Int64.lt_iff_toInt_lt.mpr none
    omega

/-- No wait wraps around. -/
theorem waitMillisChecked_eq (interval consumed : Int64) :
    waitMillisChecked interval consumed = .ok (UInt64.ofNat (waitMillis interval consumed)) := by
  rw [waitMillisChecked, waitMillis]
  split
  · rename_i some
    have some := Int64.lt_iff_toInt_lt.mp some
    have left := Word.saturatingSub_toInt interval consumed
    obtain ⟨checked, value⟩ := Word.div_eq_ok (a := Word.saturatingSub interval consumed)
      (b := 1000000) (by decide)
    have million : (1000000 : Int64).toInt = 1000000 := rfl
    rw [million, Int.tdiv_eq_ediv_of_nonneg (by omega)] at value
    have unsigned := Word.toUInt64_toNat (a := Word.saturatingSub interval consumed / 1000000)
      (by omega)
    simp only [checked, bind, Except.bind, pure, Except.pure]
    congr 1
    rw [← UInt64.toNat_inj, Word.min_toNat, Word.max_toNat, unsigned, value,
      UInt64.toNat_ofNat_of_lt' (Nat.lt_of_le_of_lt (Nat.min_le_left _ _) (by decide)),
      UInt64.toNat_one]
    have most : (250 : UInt64).toNat = 250 := rfl
    rw [most]
    omega
  · rfl

/-! ## The budget -/

namespace FrameBudget

variable {b : FrameBudget}

def framesPerSecond (rate : UInt32) : Nat := if rate = 0 then 60 else rate.toNat

def wanted (interval : Nanos) : Int := max 1 (min (interval : Int) 9223372036854775807)

/-- The interval is the greatest multiple of the period that is not above the wanted one, or one
period if less is wanted. -/
structure Rounded (wanted period interval : Int) : Prop where
  positive : 0 < period
  multiple : ∃ n, 0 < n ∧ interval = n * period
  below : period ≤ wanted → interval ≤ wanted
  greatest : ∀ n, n * period ≤ wanted → n * period ≤ interval
  least : wanted < period → interval = period

structure Sound (b : FrameBudget) : Prop where
  interval : 0 < b.interval.toInt
  blankTime : 0 ≤ b.blankTime.toInt
  ahead : b.blankTime.toInt < 9223372036854775807

structure Configured (s : BudgetSetting) (b : FrameBudget) : Prop where
  blankTime : b.blankTime.toInt = s.blankTime
  synced : s.syncs = true → b.refreshPeriod.toInt = 1000000000 / framesPerSecond s.rate ∧
    Rounded (wanted s.interval) b.refreshPeriod.toInt b.interval.toInt
  free : s.syncs = false → b.refreshPeriod.toInt = 1000000 ∧ b.interval.toInt = wanted s.interval

theorem Sound.startNow (h : b.Sound) : b.startNowChecked = .ok b.startNow ∧
    b.startNow.consumed.toInt = b.interval.toInt - (b.blankTime.toInt + 1) := by
  obtain ⟨low, high⟩ := Word.inRange_toInt b.interval
  have positive := h.interval
  have blank := h.blankTime
  have ahead := h.ahead
  have one : (1 : Int64).toInt = 1 := rfl
  obtain ⟨added, sum⟩ := Word.add_eq_ok (a := b.blankTime) (b := 1) (by constructor <;> omega)
  obtain ⟨taken, difference⟩ := Word.sub_eq_ok (a := b.interval) (b := b.blankTime + 1)
    (by constructor <;> omega)
  constructor
  · simp only [startNowChecked, added, taken, bind, Except.bind, pure, Except.pure]
    rfl
  · rw [FrameBudget.startNow, difference, sum, one]

/-- The wait does not depend on the interval. -/
theorem Sound.startNow_wait (h : b.Sound) : (b.startNow.nextWait : Int) =
    min 250 (max 1 ((b.blankTime.toInt + 1) / 1000000)) := by
  have same : b.startNow.interval = b.interval := rfl
  have left : b.interval.toInt - (b.interval.toInt - (b.blankTime.toInt + 1)) =
      b.blankTime.toInt + 1 := by omega
  rw [nextWait, waitMillis_toInt, h.startNow.2, same, left]

theorem toWord_toInt (n : Nanos) : n.toWord.toInt = min (n : Int) 9223372036854775807 :=
  Word.toInt_ofInt (by constructor <;> omega)

/-- A budget records the time that a paint reports, as far as a word reaches. -/
theorem recordPaint_consumed (b : FrameBudget) (time : Nanos) :
    (b.recordPaint time).consumed.toInt = min (time : Int) 9223372036854775807 :=
  toWord_toInt time

theorem toWord_of_lt {n : Nanos} (few : n < 9223372036854775807) : n.toWord.toInt = n := by
  have few : (n : Int) < 9223372036854775807 := Int.ofNat_lt.mpr few
  rw [toWord_toInt]
  omega

theorem wanted_pos (interval : Nanos) : 0 < wanted interval := by
  rw [wanted]
  omega

theorem wanted_toInt (interval : Nanos) : (max interval.toWord 1).toInt = wanted interval := by
  have one : (1 : Int64).toInt = 1 := rfl
  rw [Word.max_toInt, toWord_toInt, one, wanted]
  omega

theorem framesPerSecond_pos (rate : UInt32) : 0 < framesPerSecond rate := by
  rw [framesPerSecond]
  split
  · decide
  · rename_i some
    rw [← UInt32.toNat_inj] at some
    exact Nat.pos_of_ne_zero some

theorem rate_toInt (rate : UInt32) :
    (if rate == 0 then 60 else rate.toUInt64.toInt64 : Int64).toInt = framesPerSecond rate := by
  simp only [framesPerSecond, beq_iff_eq]
  split
  · rfl
  · have few := rate.toNat_lt
    rw [← Int64.toInt_toBitVec, UInt64.toBitVec_toInt64, BitVec.toInt_eq_toNat_of_lt]
    · simp
    · simp
      omega

/-- The period of a rate, with no operation that wraps around. -/
theorem periodAt_eq (rate : UInt32) :
    Word.div 1000000000 (if rate == 0 then 60 else rate.toUInt64.toInt64) = .ok (periodAt rate) ∧
      (periodAt rate).toInt = 1000000000 / framesPerSecond rate := by
  have positive := framesPerSecond_pos rate
  have same := rate_toInt rate
  obtain ⟨checked, value⟩ := Word.div_eq_ok (a := 1000000000)
    (b := if rate == 0 then 60 else rate.toUInt64.toInt64) (by omega)
  refine ⟨checked, ?_⟩
  have billion : (1000000000 : Int64).toInt = 1000000000 := rfl
  rw [periodAt, value, same, billion, Int.tdiv_eq_ediv_of_nonneg (by omega)]

theorem periodAt_eq_zero (rate : UInt32) : periodAt rate = 0 ↔ 1000000000 < rate.toNat := by
  have positive := framesPerSecond_pos rate
  have natural : (1000000000 / framesPerSecond rate : Int) =
      ((1000000000 / framesPerSecond rate : Nat) : Int) := rfl
  rw [← Int64.toInt_inj, (periodAt_eq rate).2, Int64.toInt_zero, natural, Int.natCast_eq_zero,
    Nat.div_eq_zero_iff, framesPerSecond]
  by_cases none : rate = 0
  · rw [if_pos none, none, UInt32.toNat_zero]
    decide
  · rw [if_neg none]
    rw [← UInt32.toNat_inj, UInt32.toNat_zero] at none
    omega

theorem periodAt_pos {rate : UInt32} (slow : rate.toNat ≤ 1000000000) :
    0 < (periodAt rate).toInt := by
  have positive := framesPerSecond_pos rate
  have whole : 0 ≤ (periodAt rate).toInt := by
    rw [(periodAt_eq rate).2]
    exact Int.ediv_nonneg (by decide) (by omega)
  have nonzero : periodAt rate ≠ 0 := by
    rw [ne_eq, periodAt_eq_zero]
    omega
  rw [ne_eq, ← Int64.toInt_inj, Int64.toInt_zero] at nonzero
  omega

/-- A word is rounded down to whole periods with no operation that wraps around. -/
theorem wholePeriods {a period : Int64} (some : 0 < a.toInt) (positive : 0 < period.toInt) :
    Word.div a period = .ok (a / period) ∧
      Word.mul (a / period) period = .ok (a / period * period) ∧
      (a / period * period).toInt = a.toInt / period.toInt * period.toInt := by
  obtain ⟨low, high⟩ := Word.inRange_toInt a
  obtain ⟨counted, periods⟩ := Word.div_eq_ok (a := a) positive
  rw [Int.tdiv_eq_ediv_of_nonneg (by omega)] at periods
  have below : a.toInt / period.toInt * period.toInt ≤ a.toInt := Int.ediv_mul_le _ (by omega)
  have least : 0 ≤ a.toInt / period.toInt * period.toInt :=
    Int.mul_nonneg (Int.ediv_nonneg (by omega) (by omega)) (by omega)
  obtain ⟨multiplied, product⟩ := Word.mul_eq_ok (a := a / period) (b := period)
    (by rw [periods]; constructor <;> omega)
  rw [periods] at product
  exact ⟨counted, multiplied, product⟩

/-- Rounding down to whole periods. -/
theorem rounded {wanted period : Int} (some : 0 < wanted) (positive : 0 < period) :
    Rounded wanted period (max (wanted / period * period) period) := by
  have below : wanted / period * period ≤ wanted := Int.ediv_mul_le _ (by omega)
  have whole : period ≤ wanted → 0 < wanted / period := fun h =>
    (Int.le_ediv_iff_mul_le positive).mpr (by omega)
  have none (h : wanted < period) : wanted / period = 0 := Int.ediv_eq_zero_of_lt (by omega) h
  have least (h : wanted < period) : max (wanted / period * period) period = period := by
    rw [none h]
    omega
  refine ⟨positive, ?_, fun h => Int.max_le.mpr ⟨below, h⟩, ?_, least⟩
  · by_cases h : period ≤ wanted
    · have one := whole h
      have enough : 1 * period ≤ wanted / period * period :=
        Int.mul_le_mul_of_nonneg_right one (by omega)
      exact ⟨wanted / period, one, by omega⟩
    · exact ⟨1, by decide, by rw [least (by omega), Int.one_mul]⟩
  · intro n h
    have fits : n ≤ wanted / period := (Int.le_ediv_iff_mul_le positive).mpr h
    have inside := Int.mul_le_mul_of_nonneg_right fits (Int.le_of_lt positive)
    exact Int.le_trans inside (Int.le_max_left _ _)

section Configure

variable (b : FrameBudget) (interval : Nanos) (rate : UInt32) {blankTime : Nanos}

theorem configure_free (few : blankTime < 9223372036854775807) :
    ∃ set : FrameBudget, set.Sound ∧ b.configure interval rate false blankTime = .ok set.startNow ∧
      b.configureChecked interval rate false blankTime = .ok set.startNow ∧
      Configured ⟨interval, rate, false, blankTime⟩ set.startNow := by
  have value := wanted_toInt interval
  have positive := wanted_pos interval
  have blank := toWord_of_lt few
  have room : (blankTime : Int) < 9223372036854775807 := Int.ofNat_lt.mpr few
  have sound : Sound { b with
      interval := max interval.toWord 1
      refreshPeriod := 1000000
      blankTime := blankTime.toWord } :=
    ⟨by simp only [value]; omega, by simp only [blank]; omega, by simp only [blank]; omega⟩
  exact ⟨_, sound, rfl, sound.startNow.1, blank, by simp, fun _ => ⟨rfl, value⟩⟩

theorem configure_synced (few : blankTime < 9223372036854775807)
    (slow : rate.toNat ≤ 1000000000) :
    ∃ set : FrameBudget, set.Sound ∧ b.configure interval rate true blankTime = .ok set.startNow ∧
      b.configureChecked interval rate true blankTime = .ok set.startNow ∧
      Configured ⟨interval, rate, true, blankTime⟩ set.startNow := by
  have value := wanted_toInt interval
  have wants := wanted_pos interval
  have blank := toWord_of_lt few
  have room : (blankTime : Int) < 9223372036854775807 := Int.ofNat_lt.mpr few
  have quotient := (periodAt_eq rate).2
  have positive := periodAt_pos slow
  have nonzero : periodAt rate ≠ 0 := by
    rw [ne_eq, periodAt_eq_zero]
    omega
  obtain ⟨counted, multiplied, product⟩ :=
    wholePeriods (a := max interval.toWord 1) (by omega) positive
  rw [value] at product
  have got : (max (max interval.toWord 1 / periodAt rate * periodAt rate) (periodAt rate)).toInt =
      max (wanted interval / (periodAt rate).toInt * (periodAt rate).toInt)
        (periodAt rate).toInt := by
    rw [Word.max_toInt, product]
  have sound : Sound { b with
      interval := max (max interval.toWord 1 / periodAt rate * periodAt rate) (periodAt rate)
      refreshPeriod := periodAt rate
      blankTime := blankTime.toWord } :=
    ⟨by simp only [got]; omega, by simp only [blank]; omega, by simp only [blank]; omega⟩
  refine ⟨_, sound, ?_, ?_, blank, fun _ => ⟨quotient, ?_⟩, by simp⟩
  · simp only [configure, beq_eq_false_iff_ne.mpr nonzero, if_true, Bool.false_eq_true, if_false]
  · simp only [configureChecked, (periodAt_eq rate).1, counted, multiplied, bind, Except.bind,
      if_true]
    exact sound.startNow.1
  · have whole := rounded wants positive
    rwa [← got] at whole

/-- A modest setting is taken over as it is, and with it the next frame is to be painted. -/
theorem configure_modest (setting : BudgetSetting)
    (modest : (BudgetCall.configure setting).Modest) :
    ∃ set : FrameBudget, set.Sound ∧ b.answer (.configure setting) = .ok set.startNow ∧
      b.answerChecked (.configure setting) = .ok set.startNow ∧
      Configured setting set.startNow := by
  obtain ⟨interval, rate, syncs, blankTime⟩ := setting
  obtain ⟨slow, few⟩ := modest
  cases syncs with
  | false => exact configure_free b interval rate few
  | true => exact configure_synced b interval rate few (slow rfl)

theorem configure_refused (blankTime : Nanos) (fast : 1000000000 < rate.toNat) :
    b.configure interval rate true blankTime = .error .divisionByZero ∧
      b.configureChecked interval rate true blankTime = .error .divisionByZero := by
  have none := (periodAt_eq_zero rate).mpr fast
  constructor
  · simp [configure, none]
  · simp only [configureChecked, (periodAt_eq rate).1, none, Word.div_zero, bind, Except.bind,
      if_true]

end Configure

/-! ## What every call keeps -/

/-- The wait is the time for the blank. -/
def Ready (b : FrameBudget) : Prop :=
  (b.nextWait : Int) = min 250 (max 1 ((b.blankTime.toInt + 1) / 1000000))

theorem Sound.answer_startNow (h : b.Sound) : b.startNow.Sound ∧ b.startNow.Ready :=
  ⟨⟨h.interval, h.blankTime, h.ahead⟩, h.startNow_wait⟩

/-- A modest call does the same with and without wrapping around. -/
theorem Sound.answer (h : b.Sound) {call : BudgetCall} (modest : call.Modest) :
    ∃ b' : FrameBudget, b.answer call = .ok b' ∧ b.answerChecked call = .ok b' ∧ b'.Sound ∧
      (call.StartsOver → b'.Ready) ∧ (∀ s, call.setting? = some s → Configured s b') ∧
      (call.setting? = none → ∀ s, Configured s b → Configured s b') := by
  cases call with
  | configure setting =>
    obtain ⟨set, sound, wrapping, checked, configured⟩ :=
      configure_modest b setting modest
    obtain ⟨sound, ready⟩ := sound.answer_startNow
    refine ⟨_, wrapping, checked, sound, fun _ => ready, ?_, by simp [BudgetCall.setting?]⟩
    intro s given
    rw [← Option.some.inj given]
    exact configured
  | startNow =>
    obtain ⟨sound, ready⟩ := h.answer_startNow
    exact ⟨_, rfl, h.startNow.1, sound, fun _ => ready, by simp [BudgetCall.setting?],
      fun _ s kept => ⟨kept.blankTime, kept.synced, kept.free⟩⟩
  | recordPaint sinceBlank =>
    exact ⟨_, rfl, rfl, ⟨h.interval, h.blankTime, h.ahead⟩, False.elim,
      by simp [BudgetCall.setting?], fun _ s kept => ⟨kept.blankTime, kept.synced, kept.free⟩⟩
  | markIdle =>
    obtain ⟨sound, ready⟩ := h.answer_startNow
    exact ⟨_, rfl, h.startNow.1, sound, fun _ => ready, by simp [BudgetCall.setting?],
      fun _ s kept => ⟨kept.blankTime, kept.synced, kept.free⟩⟩

structure Paced (calls : List BudgetCall) (b : FrameBudget) : Prop where
  sound : b.Sound
  configured : ∀ s, (calls.filterMap BudgetCall.setting?).getLast? = some s → Configured s b
  ready : ∀ call, calls.getLast? = some call → call.StartsOver → b.Ready

theorem standard_paced : standardChecked = .ok standard ∧ Paced [] standard := by
  refine ⟨rfl, ⟨by decide, by decide, by decide⟩, by simp, by simp⟩

theorem run_paced (calls : List BudgetCall) (modest : ∀ call ∈ calls, call.Modest) :
    ∃ b, calls.foldlM answer standard = .ok b ∧ calls.foldlM answerChecked standard = .ok b ∧
      Paced calls b := by
  induction calls using List.reverseRecOn with
  | nil => exact ⟨standard, rfl, rfl, standard_paced.2⟩
  | append_singleton calls call ih =>
    obtain ⟨b, wrapping, checked, paced⟩ := ih fun c hc => modest c (List.mem_append_left _ hc)
    obtain ⟨b', answered, answered', sound, ready, set, kept⟩ :=
      paced.sound.answer (modest call (by simp))
    refine ⟨b', ?_, ?_, sound, ?_, ?_⟩
    · simp only [List.foldlM_append, wrapping, List.foldlM_cons, List.foldlM_nil, bind_pure]
      exact answered
    · simp only [List.foldlM_append, checked, List.foldlM_cons, List.foldlM_nil, bind_pure]
      exact answered'
    · intro s latest
      cases given : call.setting? with
      | none => exact kept given s (paced.configured s (by simpa [given] using latest))
      | some t => exact set s (by simpa [given] using latest)
    · intro last here
      simp only [List.getLast?_append, List.getLast?_singleton, Option.some_or,
        Option.some.injEq] at here
      exact here ▸ ready

/-- The wait is what is left of the interval, in true numbers, rounded down to milliseconds and at
least 1 and at most 250, whatever the words are. A budget, from the standard one on, is computed
without wrapping around and without a division by zero, whatever the intervals are and the times
that paints report. Once it has been set up to keep step with the display, its interval is the
greatest multiple of the period of the rate that is not above the wanted one, or one period if less
is wanted. When the next frame is to be painted right away, the wait is the time for the blank,
whatever the interval is. -/
theorem pacing_exact (calls : List BudgetCall) (modest : ∀ call ∈ calls, call.Modest) :
    (∀ interval consumed : Int64,
      waitMillisChecked interval consumed = .ok (UInt64.ofNat (waitMillis interval consumed)) ∧
      (waitMillis interval consumed : Int) =
        min 250 (max 1 ((interval.toInt - consumed.toInt) / 1000000))) ∧
    (∀ shorter longer consumed : Int64, shorter ≤ longer →
      waitMillis shorter consumed ≤ waitMillis longer consumed) ∧
    (∀ interval less more : Int64, less ≤ more →
      waitMillis interval more ≤ waitMillis interval less) ∧
    ∃ b, calls.foldlM answer standard = .ok b ∧
      (standardChecked >>= calls.foldlM answerChecked) = .ok b ∧
      (∀ s, (calls.filterMap BudgetCall.setting?).getLast? = some s → Configured s b) ∧
      ∀ call, calls.getLast? = some call → call.StartsOver →
        (b.nextWait : Int) = min 250 (max 1 ((b.blankTime.toInt + 1) / 1000000)) := by
  refine ⟨fun interval consumed => ⟨waitMillisChecked_eq _ _, waitMillis_toInt _ _⟩, ?_, ?_, ?_⟩
  · intro shorter longer consumed h
    have h := Int64.le_iff_toInt_le.mp h
    have first := waitMillis_toInt shorter consumed
    have second := waitMillis_toInt longer consumed
    omega
  · intro interval less more h
    have h := Int64.le_iff_toInt_le.mp h
    have first := waitMillis_toInt interval less
    have second := waitMillis_toInt interval more
    omega
  · obtain ⟨b, wrapping, checked, paced⟩ := run_paced calls modest
    rw [standard_paced.1]
    exact ⟨b, wrapping, checked, paced.configured, paced.ready⟩

/-- A display with 144 frames in a second, of which about 30 are wanted. -/
def thirtyOf144 : List BudgetCall :=
  [.configure ⟨33333333, 144, true, 6000000⟩, .recordPaint 20000000, .markIdle]

/-- Every fourth frame of the display is painted, and the wait is the time for the blank. -/
theorem thirtyOf144_paced : ∃ b, thirtyOf144.foldlM answer standard = .ok b ∧
    (standardChecked >>= thirtyOf144.foldlM answerChecked) = .ok b ∧
    b.interval.toInt = 4 * (1000000000 / 144) ∧
    Rounded 33333333 (1000000000 / 144) b.interval.toInt ∧ b.nextWait = 6 ∧
    waitMillis Int64.maxValue Int64.minValue = 250 := by
  have modest : ∀ call ∈ thirtyOf144, call.Modest := by
    simp [thirtyOf144, BudgetCall.Modest]
  obtain ⟨wait, _, _, b, wrapping, checked, configured, ready⟩ := pacing_exact thirtyOf144 modest
  have set := configured ⟨33333333, 144, true, 6000000⟩ rfl
  obtain ⟨period, rounded⟩ := set.synced rfl
  have soon := ready .markIdle rfl trivial
  have longest := (wait Int64.maxValue Int64.minValue).2
  rw [period] at rounded
  rw [set.blankTime] at soon
  have known : thirtyOf144.foldlM answer standard =
      .ok ⟨27777776, 6944444, 6000000, 21777775⟩ := rfl
  obtain rfl := Except.ok.inj (wrapping.symm.trans known)
  exact ⟨_, wrapping, checked, rfl, rounded, Int.ofNat_inj.mp soon, Int.ofNat_inj.mp longest⟩

end FrameBudget

end Compositing
