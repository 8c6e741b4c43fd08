namespace FlowTyping

/-- In which way an operation and a value do not fit. -/
inductive Fault where
  /-- A table has no entry for the value. -/
  | noEntry
  /-- The value has not the shape that the operation works on. -/
  | wrongShape
  /-- The value lacks the part that the operation looks at. -/
  | noSuchPart
  /-- The value is nested too deeply. -/
  | tooDeep
  deriving DecidableEq, Repr

end FlowTyping
