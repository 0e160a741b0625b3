import LSystems.Fault

namespace LSystems

/-- Turns counts of a total into percentages at least `step` points apart. The
last percentage sent starts at `-step`, so that the first one may be zero. -/
structure Throttle where
  total : Int
  step : Int
  last : Int
  finished : Bool
  step_pos : 1 ≤ step

namespace Throttle

/-- A throttle that has sent nothing yet; its step is at least one point. -/
def start (total step : Int) : Except Fault Throttle :=
  if h : 1 ≤ step then .ok ⟨total, step, -step, false, h⟩ else .error .progressStep

theorem start_eq_ok {total step : Int} (least : 1 ≤ step) :
    start total step = .ok ⟨total, step, -step, false, least⟩ :=
  dif_pos least

theorem start_eq_error {total step : Int} (low : step < 1) :
    start total step = .error .progressStep :=
  dif_neg (by omega)

theorem eq_of_start {total step : Int} {t : Throttle} (started : start total step = .ok t) :
    ∃ least : 1 ≤ step, t = ⟨total, step, -step, false, least⟩ := by
  by_cases least : 1 ≤ step
  · rw [start_eq_ok least] at started
    exact ⟨least, (Except.ok.inj started).symm⟩
  · rw [start_eq_error (by omega)] at started
    cases started

/-- The percentage of the total that a count makes, cut at 100. -/
def percentage (t : Throttle) (count : Int) : Int :=
  min 100 (100 * count / t.total)

/-- Sends the percentage of a count when it is 100 or has moved by a step, and
nothing once 100 has been sent. -/
def update (t : Throttle) (count : Int) : Option Int × Throttle :=
  if t.finished ∨ t.total ≤ 0 then (none, t)
  else
    let p := t.percentage count
    if p = 100 ∨ t.step ≤ p - t.last then (some p, { t with last := p, finished := p == 100 })
    else (none, t)

/-- Sends 100 unless it has been sent. -/
def finish (t : Throttle) : Option Int × Throttle :=
  if t.finished then (none, t) else (some 100, { t with last := 100, finished := true })

/-- The percentages sent for some counts, one after another. -/
def feed (t : Throttle) (counts : List Int) : List Int × Throttle :=
  counts.foldl
    (fun (sent, t) count =>
      match t.update count with
      | (some p, t) => (sent ++ [p], t)
      | (none, t) => (sent, t))
    ([], t)

/-- The percentages sent for the first `count` counts from one on. -/
def sentUpTo (t : Throttle) (count : Nat) : List Int × Throttle :=
  t.feed ((List.range' 1 count).map Int.ofNat)

/-- The percentages sent for all counts up to `count` and at the end. -/
def sentInAll (t : Throttle) (count : Nat) : List Int :=
  let (sent, t) := t.sentUpTo count
  sent ++ t.finish.1.toList

end Throttle

end LSystems
