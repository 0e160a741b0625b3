namespace LSystems

/-- Where a render stands. -/
inductive Stage
  | idle
  | measuring
  | scaling
  | drawing
  | error
deriving DecidableEq

/-- The name of a stage as it is published. -/
def Stage.name : Stage → String
  | idle => "idle"
  | measuring => "computing_bounds"
  | scaling => "scaling"
  | drawing => "drawing"
  | error => "error"

/-- What a render says of its progress in words. -/
inductive Status
  | measuring
  | measured
  | rendered
  | failed (report : String)
deriving DecidableEq

/-- The text of a status; the letter N stands for the milliseconds spent. -/
def Status.text : Status → String
  | measuring => "Computing boundaries..."
  | measured => "Computing boundaries done in N ms"
  | rendered => "Rendering done in N ms"
  | failed report => report

/-- What a coordinator tells those who watch it. -/
inductive Event
  | stage (stage : Stage)
  | status (status : Status)
  | progress (percentage : Int)
  | rendered
  | error (report : String)
  | growing (percentage : Int)
  | grown (generation : Nat)
deriving DecidableEq

end LSystems
