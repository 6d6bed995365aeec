namespace EnvironmentOperator

inductive Signal where
  | terminate
  | interrupt
deriving DecidableEq

namespace Signal

def all : List Signal := [.terminate, .interrupt]

def name : Signal → String
  | .terminate => "TERM"
  | .interrupt => "INT"

def ofName? (s : String) : Option Signal := all.find? (fun signal => signal.name = s)

end Signal

inductive Session where
  | waiting
  | begun
  | ended
deriving DecidableEq

namespace Session

def isReady : Session → Bool
  | .begun => true
  | _ => false

def hasEnded : Session → Bool
  | .ended => true
  | _ => false

def received (s : Session) (_ : Signal) : Session :=
  match s with
  | .begun => .ended
  | other => other

end Session

end EnvironmentOperator
