/-!
# Routes

A path names a place by its parts. The parts that stand for identifiers are kept as they are
written.
-/

namespace PrintFarm.Http

/-- The methods that some place allows. -/
inductive Method
  | get
  | head
  | post
  | patch
  | delete
  | options
  | other
  deriving DecidableEq, Repr

def Method.ofWord : String → Method
  | "GET" => get
  | "HEAD" => head
  | "POST" => post
  | "PATCH" => patch
  | "DELETE" => delete
  | "OPTIONS" => options
  | _ => other

/-- What a plate can be told to do. -/
inductive PlateStep
  | start
  | complete
  | fail
  | cancel
  deriving DecidableEq, Repr

/-- What a path can name. -/
inductive Place
  | index
  | runs
  | run (id : String)
  | completion (run : String)
  | cancellation (run : String)
  | failure (run : String)
  | materials (run : String)
  | materialsReset (run : String)
  | material (run id : String)
  | item (run id : String)
  | plates (run : String)
  | plate (run id : String)
  | plateStep (run id : String) (step : PlateStep)
  | deductions (run : String)
  | failureReasons
  | spools
  deriving DecidableEq, Repr

namespace Place

/-- The place within a run that the further parts of a path name. -/
def withinRun? (run : String) : List String → Option Place
  | [] => some (.run run)
  | ["complete"] => some (completion run)
  | ["cancel"] => some (cancellation run)
  | ["fail"] => some (failure run)
  | ["materials"] => some (materials run)
  | ["materials", "reset"] => some (materialsReset run)
  | ["materials", id] => some (material run id)
  | ["items", id] => some (item run id)
  | ["plates"] => some (plates run)
  | ["plates", id] => some (plate run id)
  | ["plates", id, "start"] => some (plateStep run id .start)
  | ["plates", id, "complete"] => some (plateStep run id .complete)
  | ["plates", id, "fail"] => some (plateStep run id .fail)
  | ["plates", id, "cancel"] => some (plateStep run id .cancel)
  | ["deductions"] => some (deductions run)
  | _ => none

/-- The place that a path names. No part of a path is empty, but the index has nothing else. -/
def ofPath? (path : String) : Option Place :=
  match (path.toList.splitOn '/').map String.ofList with
  | ["", ""] => some index
  | "" :: "api" :: parts =>
    if parts.any String.isEmpty then none
    else
      match parts with
      | ["runs"] => some runs
      | "runs" :: id :: rest => withinRun? id rest
      | ["failure-reasons"] => some failureReasons
      | ["spools"] => some spools
      | _ => none
  | _ => none

end Place

/-- Splits a target into its path and, behind a question mark, its query. A fragment is cut off. -/
def splitTarget (target : String) : String × String :=
  let cs := target.toList.takeWhile (· != '#')
  (String.ofList (cs.takeWhile (· != '?')), String.ofList ((cs.dropWhile (· != '?')).drop 1))

end PrintFarm.Http
