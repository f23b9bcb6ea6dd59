import Admission.Proofs.Floor.Moves
import Admission.Proofs.Task.RunOut

/-! # What will become of the jobs

What a job comes to is fixed when it is submitted: it is the run of its task on its own.
A forecast says so in advance (`Admission.Floor.forecasts`): of a queued job, by its
whole run; of a job under way, by the rest of its run; of a job that is over, by how it
ended. A move of the floor takes jobs from one place to the next and changes no forecast
(`Admission.Floor.Move.forecasts`), in whatever order the workers go on and whatever the
other jobs do.
-/

namespace Admission

/-- How a job ends: its outcome, if it has one, and the record of its connection. -/
structure Forecast where
  number : Nat
  id : Nat
  outcome : Option Outcome
  record : Record
  deriving DecidableEq, Repr

namespace Errand

/-- The end of a job, as a run of its task has it. -/
def forecast (errand : Errand) (run : Run Outcome) : Forecast :=
  ⟨errand.number, errand.job.id, run.result, run.conn.record⟩

/-- The forecast of a job that was not taken yet. -/
def ahead (errand : Errand) : Forecast :=
  errand.forecast (errand.live.task.run errand.live.conn)

/-- The forecast of a job under way. -/
def underway (errand : Errand) : Forecast :=
  errand.forecast errand.live.runOut

end Errand

def Ending.forecast (ending : Ending) : Forecast :=
  ⟨ending.number, ending.id, ending.outcome, ending.record⟩

namespace Errand

/-- A job that begins is to end as was foreseen in the queue. -/
theorem begun_underway (errand : Errand) (now : Nat) :
    (errand.begun now).underway = errand.ahead := by
  simp only [underway, ahead, begun, forecast, Live.enter_runOut, Run.after]

/-- A job that ends does so as forecast. -/
theorem ending_forecast {errand : Errand} {outcome : Option Outcome} (instant : Nat)
    (timely : errand.live.Timely) (finished : errand.live.prospect = .finished outcome) :
    (errand.ending outcome instant).forecast = errand.underway := by
  obtain ⟨result, conn⟩ := Live.runOut_of_finished timely finished
  simp only [underway, forecast, Ending.forecast, ending, result, conn]
  cases outcome <;> rfl

/-- A job that goes on is to end as was foreseen. -/
theorem goneOn_underway {errand : Errand} {due : Nat} {after : Live Outcome}
    (timely : errand.live.Timely) (event : errand.live.prospect = .event due after) :
    (errand.goneOn after).underway = errand.underway := by
  simp only [underway, goneOn, forecast, (Live.runOut_of_event timely event).2]

theorem letThrough_underway (errand : Errand) (now : Nat) :
    (errand.goneOn (errand.live.letThrough now)).underway = errand.underway := by
  obtain ⟨result, conn⟩ := errand.live.letThrough_runOut now
  simp only [underway, goneOn, forecast, result, conn]

end Errand

namespace Floor

def underway (workers : List (Worker Errand)) : List Forecast :=
  (workers.filterMap Worker.processes).map Errand.underway

/-- The forecasts of all jobs that were accepted. -/
def forecasts (floor : Floor) : List Forecast :=
  floor.pool.queue.map Errand.ahead
    ++ (underway floor.pool.workers ++ floor.endings.map Ending.forecast)

/-- No job under way has missed a deadline. -/
def Timely (floor : Floor) : Prop :=
  ∀ errand, .busy errand ∈ floor.pool.workers → errand.live.Timely

variable {floor next : Floor}

/-- When one worker changes, no deadline is missed if its new job has missed none. -/
theorem Timely.replaced (timely : floor.Timely) {before behind : List (Worker Errand)}
    {old new : Worker Errand} (workers : floor.pool.workers = before ++ old :: behind)
    (fine : ∀ errand, new = .busy errand → errand.live.Timely) (errand : Errand)
    (busy : .busy errand ∈ before ++ new :: behind) : errand.live.Timely := by
  rcases mem_replaced busy with here | before
  · exact fine errand here.symm
  · rw [← workers] at before
    exact timely errand before

/-- No job misses a deadline by a move. -/
theorem Move.timely (move : floor.Move next) (timely : floor.Timely) : next.Timely := by
  cases move with
  | begin workers queued =>
      refine timely.replaced workers fun errand same => ?_
      obtain rfl := Worker.busy.inj same
      exact Live.enter_timely ..
  | goOn workers event reached =>
      refine timely.replaced workers fun errand same => ?_
      obtain rfl := Worker.busy.inj same
      have before := timely _ (by rw [workers]; exact List.mem_append_cons_self)
      exact (Live.runOut_of_event before event).1
  | @pass before behind waiting permits workers waits granted =>
      refine timely.replaced workers fun errand same => ?_
      obtain rfl := Worker.busy.inj same
      have before := timely _ (by rw [workers]; exact List.mem_append_cons_self)
      exact Live.letThrough_timely before _
  | finish workers finished => exact timely.replaced workers nofun
  | release workers => exact timely.replaced workers nofun
  | leave workers empty shut => exact timely.replaced workers nofun
  | join waiting drained => exact timely

/-- The forecasts, with one worker singled out. -/
theorem forecasts_roster {before behind : List (Worker Errand)} {worker : Worker Errand}
    (workers : floor.pool.workers = before ++ worker :: behind) :
    floor.forecasts =
      floor.pool.queue.map Errand.ahead ++ (underway before ++
        (worker.processes.toList.map Errand.underway ++
          (underway behind ++ floor.endings.map Ending.forecast))) := by
  simp only [forecasts, underway, workers, Pool.filterMap_roster, List.map_append,
    List.append_assoc]

/-- **What happens changes no forecast.** -/
theorem Move.forecasts (move : floor.Move next) (timely : floor.Timely) :
    next.forecasts.Perm floor.forecasts := by
  cases move with
  | @begin before behind errand rest workers queued =>
      -- The head of the queue moves to the place of the worker.
      rw [forecasts_roster workers, forecasts_roster rfl, queued]
      have first := @List.perm_middle _ errand.ahead (rest.map Errand.ahead ++ underway before)
        (underway behind ++ floor.endings.map Ending.forecast)
      rw [List.append_assoc, List.append_assoc] at first
      simp only [Worker.processes, Option.toList, List.map_cons, List.map_nil,
        errand.begun_underway]
      exact first
  | @goOn before behind errand due after workers event reached =>
      have busy := timely errand (by rw [workers]; exact List.mem_append_cons_self)
      have same := errand.goneOn_underway busy event
      rw [forecasts_roster workers, forecasts_roster rfl]
      simp only [Worker.processes, Option.toList, List.map_cons, same]
      exact .refl _
  | @pass before behind errand permits workers waits granted =>
      have same := errand.letThrough_underway floor.now
      rw [forecasts_roster workers, forecasts_roster rfl]
      simp only [Worker.processes, Option.toList, List.map_cons, same]
      exact .refl _
  | @finish before behind errand outcome workers finished =>
      -- The place of the worker moves to the end of the endings.
      have busy := timely errand (by rw [workers]; exact List.mem_append_cons_self)
      have same := errand.ending_forecast floor.now busy finished
      rw [forecasts_roster workers, forecasts_roster rfl]
      simp only [Worker.processes, Option.toList, List.map_append, List.map_cons, List.map_nil,
        same, List.nil_append]
      apply List.Perm.append_left
      have last := perm_last (underway before)
        (underway behind ++ floor.endings.map Ending.forecast) errand.underway
      rw [List.append_assoc] at last
      exact last.symm
  | release workers =>
      rw [forecasts_roster workers, forecasts_roster rfl]
      exact .refl _
  | leave workers empty shut =>
      rw [forecasts_roster workers, forecasts_roster rfl]
      exact .refl _
  | join waiting drained => exact .refl _

theorem forecasts_queue (floor : Floor) (free : Nat) (errand : Errand) :
    let queued := { floor.pool with free, queue := floor.pool.queue ++ [errand] }
    ({ floor with pool := queued } : Floor).forecasts.Perm
      (floor.forecasts ++ [errand.ahead]) := by
  simp only [forecasts, List.map_append, List.map_cons, List.map_nil, List.append_assoc,
    List.singleton_append]
  have last := perm_last (floor.pool.queue.map Errand.ahead)
    (underway floor.pool.workers ++ floor.endings.map Ending.forecast) errand.ahead
  rw [List.append_assoc] at last
  exact last

end Floor

end Admission
