namespace RelayConsole

/-- The way from a widget to a writer: every frame that was sent on it, and whether anyone still receives. -/
structure Channel where
  frames : List String := []
  receiving : Bool := true
  deriving DecidableEq, Repr

/-- The channel after a frame was sent on it; none if nobody receives any more. -/
def Channel.send? (channel : Channel) (frame : String) : Option Channel :=
  if channel.receiving then some { channel with frames := channel.frames ++ [frame] } else none

end RelayConsole
